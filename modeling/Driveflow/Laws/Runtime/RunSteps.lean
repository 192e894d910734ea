import Driveflow.Laws.Runtime.ExactlyOnce
import Driveflow.Laws.Runtime.SampleCalls
import Driveflow.Laws.Runtime.SourceHealth
import Driveflow.Runtime.Runtime

/-!
# The steps of a run

What one step of `run` can do, with its guards (`Transition`), and what a run of the whole is for
its parts: a run of the pipeline (`reaches_pipeline`), a sequence of calls on the monitor
(`healthMonitor_eq`), a tally of the sample calls (`sampleMetrics_tallied`), and a flow of packets
through the phases of the packet processor (`flow`).
-/

namespace Driveflow.Runtime

open Library Net Protocol

namespace Run

open WorkerPipeline (Worker acceptedPackets)
open SensorSampleProcessor (Phase CallEvent Call Tallied)

/-! ## What one step can do -/

def Job.phase : Job → Phase
  | .processing call => call.phase
  | .reported => .done

/-- The steps, with their guards. -/
inductive Transition (state : State) : Event → State → Prop where
  | decided (answer) (stands : state.stage = .deciding) :
    Transition state (.stopAsked answer)
      { state with stage := if answer || limitReached state then .leaving else .polling }
  | checked (answer packet rest) (stands : state.stage = .batch packet rest) :
    Transition state (.stopAsked answer)
      { state with
        stage := if answer || limitReached state then .deciding else .observing packet rest }
  | polled (packets receiverMetrics) (stands : state.stage = .polling) :
    Transition state (.polled packets)
      { state with stage := Stage.continue packets, receiverMetrics }
  | considered (packet rest) (stands : state.stage = .observing packet rest) :
    Transition state (.considered packet)
      { state with
        stage := .submitting packet rest
        healthMonitor := (state.healthMonitor.observePacket packet).1 }
  | refused (packet rest pipeline) (stands : state.stage = .submitting packet rest)
    (submits : state.pipeline.perform (.trySubmit packet) =
      some (pipeline, .submitted packet .kQueueFull)) :
    Transition state (.pipeline (.submitted packet .kQueueFull))
      { state with stage := .refused packet rest, pipeline }
  | submitted (packet rest pipeline result) (stands : state.stage = .submitting packet rest)
    (settled : result ≠ .kQueueFull)
    (submits : state.pipeline.perform (.trySubmit packet) =
      some (pipeline, .submitted packet result)) :
    Transition state (.pipeline (.submitted packet result))
      { state with stage := .counting rest, pipeline }
  | dropObserved (packet rest) (stands : state.stage = .refused packet rest) :
    Transition state (.queueDropObserved packet)
      { state with
        stage := .counting rest
        healthMonitor := state.healthMonitor.observeIssue packet .kQueueDropped }
  | counted (rest) (stands : state.stage = .counting rest) :
    Transition state .counted
      { state with stage := Stage.continue rest, packetsReceived := state.packetsReceived + 1 }
  | clockRead (timestamp) (stands : state.stage = .leaving) :
    Transition state (.clockRead timestamp) { state with stage := .stopping timestamp }
  | stopSteps (timestamp action event pipeline) (stands : state.stage = .stopping timestamp)
    (steps : state.pipeline.perform action = some (pipeline, event))
    (stop : event = .stopBegun ∨ event = .stopRequested) :
    Transition state (.pipeline event) { state with pipeline }
  | stopped (timestamp pipeline metrics) (stands : state.stage = .stopping timestamp)
    (steps : state.pipeline.perform .returnStop = some (pipeline, .stopReturned metrics)) :
    Transition state (.pipeline (.stopReturned metrics))
      { state with stage := .collecting timestamp pipeline.metrics, pipeline }
  | returned (timestamp metrics) (stands : state.stage = .collecting timestamp metrics) :
    Transition state (.returned (summarise state timestamp metrics))
      { state with stage := .returned }
  | took (worker packet pipeline)
    (steps : state.pipeline.perform (.acquire worker) = some (pipeline, .took worker packet)) :
    Transition state (.pipeline (.took worker packet))
      { state with pipeline, jobs := state.jobs.set worker (.processing .entered) }
  | exited (worker pipeline)
    (steps : state.pipeline.perform (.acquire worker) = some (pipeline, .exited worker)) :
    Transition state (.pipeline (.exited worker))
      { state with pipeline, jobs := state.jobs.set worker (.processing .entered) }
  | advanced (worker packet call call' event)
    (busy : state.pipeline.workers[worker]? = some (.processing packet))
    (job : state.jobs[worker]? = some (.processing call)) (origin : call.phase = event.origin)
    (target : call'.phase = event.target) (sound : event.Says packet) :
    Transition state (.sample worker packet event)
      { state with
        sampleMetrics := event.tally state.sampleMetrics
        jobs := state.jobs.set worker (.processing call') }
  | reported (worker packet job)
    (busy : state.pipeline.workers[worker]? = some (.processing packet))
    (job_eq : state.jobs[worker]? = some job) (phase : job.phase = .rejected) :
    Transition state (.rejectionObserved worker packet)
      { state with
        healthMonitor := state.healthMonitor.observeIssue packet .kPayloadRejected
        jobs := state.jobs.set worker .reported }
  | finished (worker packet job pipeline) (job_eq : state.jobs[worker]? = some job)
    (phase : job.phase = .done)
    (steps : state.pipeline.perform (.finish worker false) =
      some (pipeline, .returned worker packet)) :
    Transition state (.pipeline (.returned worker packet)) { state with pipeline }
  | failed (worker packet job pipeline) (job_eq : state.jobs[worker]? = some job)
    (phase : job.phase = .threw)
    (steps : state.pipeline.perform (.finish worker true) =
      some (pipeline, .threw worker packet)) :
    Transition state (.pipeline (.threw worker packet)) { state with pipeline }

/-- A step of the pipeline inside the run. -/
private theorem performPipeline_eq_some {state next : State} {action : WorkerPipeline.Action}
    {event : WorkerPipeline.Event}
    (h : performPipeline state action = some (next, event)) :
    ∃ pipeline, state.pipeline.perform action = some (pipeline, event) ∧
      next = { state with pipeline } := by
  obtain ⟨⟨pipeline, seen⟩, hperform, hnext⟩ := Option.bind_eq_some_iff.mp h
  cases hnext
  exact ⟨pipeline, hperform, rfl⟩

/-- The packet of a worker that is processing. -/
theorem processed?_eq_some {state : State} {worker : Nat} {packet : ReceivedPacket}
    (h : processed? state worker = some packet) :
    state.pipeline.workers[worker]? = some (.processing packet) := by
  unfold processed? at h
  split at h
  next other hworker =>
    cases h
    exact hworker
  next => cases h

/-- **The refused packet is the submitted one**: nothing was moved from it. -/
private theorem trySubmit_remaining {pipeline next : WorkerPipeline} {packet : ReceivedPacket}
    {remaining : Option ReceivedPacket}
    (h : pipeline.trySubmit packet = (next, .kQueueFull, remaining)) :
    remaining = some packet := by
  unfold WorkerPipeline.trySubmit at h
  dsimp only at h
  split at h
  · cases h
  · split at h
    · cases h
      rfl
    · cases h

private theorem lockLifecycle_event {pipeline next : WorkerPipeline}
    {event : WorkerPipeline.Event} (h : pipeline.perform .lockLifecycle = some (next, event)) :
    event = .stopBegun ∨ event = .stopRequested := by
  simp only [WorkerPipeline.perform] at h
  split at h
  · cases h
    exact Or.inl rfl
  · cases h

private theorem requestStop_event {pipeline next : WorkerPipeline}
    {event : WorkerPipeline.Event} (h : pipeline.perform .requestStop = some (next, event)) :
    event = .stopBegun ∨ event = .stopRequested := by
  simp only [WorkerPipeline.perform] at h
  split at h
  · cases h
    exact Or.inr rfl
  · cases h

private theorem returnStop_event {pipeline next : WorkerPipeline}
    {event : WorkerPipeline.Event} (h : pipeline.perform .returnStop = some (next, event)) :
    ∃ metrics, event = .stopReturned metrics := by
  simp only [WorkerPipeline.perform] at h
  split at h
  · cases h
    exact ⟨_, rfl⟩
  · cases h

/-- A worker that acquires takes a packet or exits. -/
private theorem transition_of_acquire {state next : State} {event : Event} {worker : Nat}
    (h : acquire state worker = some (next, event)) : Transition state event next := by
  obtain ⟨⟨middle, seen⟩, hpipeline, hnext⟩ := Option.bind_eq_some_iff.mp h
  obtain ⟨pipeline, hperform, rfl⟩ := performPipeline_eq_some hpipeline
  cases hnext
  have hacquire := hperform
  simp only [WorkerPipeline.perform, WorkerPipeline.acquire] at hacquire
  split at hacquire
  next =>
    split at hacquire
    next =>
      split at hacquire
      next =>
        cases hacquire
        exact .exited worker _ hperform
      next => cases hacquire
    next packet rest _ =>
      cases hacquire
      exact .took worker packet _ hperform
  next => cases hacquire

/-- A worker that advances takes one step of its own call. -/
private theorem transition_of_advance {state next : State} {event : Event} {worker : Nat}
    {throws : Bool} (h : advance state worker throws = some (next, event)) :
    Transition state event next := by
  obtain ⟨packet, hpacket, hrest⟩ := Option.bind_eq_some_iff.mp h
  dsimp only at hrest
  split at hrest
  next call hjob =>
    obtain ⟨⟨metrics, call', seen⟩, hadvance, hnext⟩ := Option.bind_eq_some_iff.mp hrest
    obtain ⟨horigin, htarget, rfl, hsays⟩ := SensorSampleProcessor.advance_spec hadvance
    cases hnext
    exact .advanced worker packet call call' seen (processed?_eq_some hpacket) hjob horigin
      htarget hsays
  next => cases hrest

/-- Only a call that rejected its payload reports it. -/
private theorem transition_of_observeRejection {state next : State} {event : Event}
    {worker : Nat} (h : observeRejection state worker = some (next, event)) :
    Transition state event next := by
  obtain ⟨packet, hpacket, hrest⟩ := Option.bind_eq_some_iff.mp h
  split at hrest
  next error hjob =>
    split at hrest
    next herror =>
      cases hrest
      exact .reported worker packet _ (processed?_eq_some hpacket) hjob (if_neg herror)
    next => cases hrest
  next => cases hrest

/-- A worker finishes when its call is over, by a return or by an exception. -/
private theorem transition_of_finish {state next : State} {event : Event} {worker : Nat}
    (h : finish state worker = some (next, event)) : Transition state event next := by
  have ends {throws : Bool} {job : Job} (hjob : state.jobs[worker]? = some job)
      (hphase : job.phase = if throws then .threw else .done)
      (h : (performPipeline state (.finish worker throws)).bind
        (fun result => some (result.1, Event.pipeline result.2)) = some (next, event)) :
      Transition state event next := by
    obtain ⟨⟨middle, seen⟩, hpipeline, hnext⟩ := Option.bind_eq_some_iff.mp h
    obtain ⟨pipeline, hperform, rfl⟩ := performPipeline_eq_some hpipeline
    cases hnext
    have hfinish := hperform
    simp only [WorkerPipeline.perform, WorkerPipeline.finish] at hfinish
    split at hfinish
    next packet _ =>
      cases throws with
      | true =>
        cases hfinish
        exact .failed worker packet job _ hjob hphase hperform
      | false =>
        cases hfinish
        exact .finished worker packet job _ hjob hphase hperform
    next => cases hfinish
  unfold finish at h
  split at h
  next hjob => exact ends hjob rfl h
  next hjob => exact ends hjob rfl h
  next hjob => exact ends hjob rfl h
  next => cases h

/-- **Every step is one of these.** -/
theorem transition_of_perform {state next : State} {action : Action} {event : Event}
    (h : perform state action = some (next, event)) : Transition state event next := by
  cases action with
  | askStop answer =>
    simp only [perform] at h
    split at h
    next hstage =>
      cases h
      exact .decided answer hstage
    next packet rest hstage =>
      cases h
      exact .checked answer packet rest hstage
    next => cases h
  | poll packets receiverMetrics =>
    simp only [perform] at h
    split at h
    next hstage =>
      cases h
      exact .polled packets receiverMetrics hstage
    next => cases h
  | observePacket =>
    simp only [perform] at h
    split at h
    next packet rest hstage =>
      cases h
      exact .considered packet rest hstage
    next => cases h
  | trySubmit =>
    simp only [perform] at h
    split at h
    next packet rest hstage =>
      have hsubmits (pipeline : WorkerPipeline) (result : SubmitResult)
          (remaining : Option ReceivedPacket)
          (htry : state.pipeline.trySubmit packet = (pipeline, result, remaining)) :
          state.pipeline.perform (.trySubmit packet) =
            some (pipeline, .submitted packet result) := by
        simp only [WorkerPipeline.perform, htry]
      obtain ⟨pipeline, result, remaining, htry⟩ : ∃ pipeline result remaining,
          state.pipeline.trySubmit packet = (pipeline, result, remaining) := ⟨_, _, _, rfl⟩
      rw [htry] at h
      have hsubmit := hsubmits pipeline result remaining htry
      cases result with
      | kQueueFull =>
        rw [trySubmit_remaining htry] at h
        cases h
        exact .refused packet rest pipeline hstage hsubmit
      | kAccepted =>
        cases h
        exact .submitted packet rest pipeline _ hstage (by simp) hsubmit
      | kStopped =>
        cases h
        exact .submitted packet rest pipeline _ hstage (by simp) hsubmit
    next => cases h
  | observeQueueDrop =>
    simp only [perform] at h
    split at h
    next packet rest hstage =>
      cases h
      exact .dropObserved packet rest hstage
    next => cases h
  | countPacket =>
    simp only [perform] at h
    split at h
    next rest hstage =>
      cases h
      exact .counted rest hstage
    next => cases h
  | readClock timestamp =>
    simp only [perform] at h
    split at h
    next hstage =>
      cases h
      exact .clockRead timestamp hstage
    next => cases h
  | lockLifecycle =>
    simp only [perform] at h
    split at h
    next timestamp hstage =>
      obtain ⟨⟨middle, seen⟩, hpipeline, hnext⟩ := Option.bind_eq_some_iff.mp h
      obtain ⟨pipeline, hperform, rfl⟩ := performPipeline_eq_some hpipeline
      cases hnext
      exact .stopSteps timestamp _ _ _ hstage hperform (lockLifecycle_event hperform)
    next => cases h
  | requestStop =>
    simp only [perform] at h
    split at h
    next timestamp hstage =>
      obtain ⟨⟨middle, seen⟩, hpipeline, hnext⟩ := Option.bind_eq_some_iff.mp h
      obtain ⟨pipeline, hperform, rfl⟩ := performPipeline_eq_some hpipeline
      cases hnext
      exact .stopSteps timestamp _ _ _ hstage hperform (requestStop_event hperform)
    next => cases h
  | returnStop =>
    simp only [perform] at h
    split at h
    next timestamp hstage =>
      obtain ⟨⟨middle, seen⟩, hpipeline, hnext⟩ := Option.bind_eq_some_iff.mp h
      obtain ⟨pipeline, hperform, rfl⟩ := performPipeline_eq_some hpipeline
      cases hnext
      obtain ⟨metrics, rfl⟩ := returnStop_event hperform
      exact .stopped timestamp pipeline metrics hstage hperform
    next => cases h
  | summarise =>
    simp only [perform] at h
    split at h
    next timestamp metrics hstage =>
      cases h
      exact .returned timestamp metrics hstage
    next => cases h
  | acquire worker => exact transition_of_acquire h
  | advance worker throws => exact transition_of_advance h
  | observeRejection worker => exact transition_of_observeRejection h
  | finish worker => exact transition_of_finish h

/-! ## The parts of a run -/

namespace Event

def pipeline? : Event → Option WorkerPipeline.Event
  | .pipeline event => some event
  | _ => none

/-- The call on the monitor. -/
def health? : Event → Option HealthEvent
  | .considered packet => some (.packet packet)
  | .queueDropObserved packet => some (.issue packet .kQueueDropped)
  | .rejectionObserved _ packet => some (.issue packet .kPayloadRejected)
  | _ => none

def call? : Event → Option CallEvent
  | .sample _ _ event => some event
  | _ => none

/-- The packet that arrives in a phase of the packet processor. -/
def arrival : Event → Option (Phase × ReceivedPacket)
  | .pipeline (.took _ packet) => some (.entered, packet)
  | .sample _ packet event => some (event.target, packet)
  | .rejectionObserved _ packet => some (.done, packet)
  | _ => none

/-- The packet that departs from a phase. -/
def departure : Event → Option (Phase × ReceivedPacket)
  | .pipeline (.returned _ packet) => some (.done, packet)
  | .pipeline (.threw _ packet) => some (.threw, packet)
  | .sample _ packet event => some (event.origin, packet)
  | .rejectionObserved _ packet => some (.rejected, packet)
  | _ => none

end Event

def pipelineEvents (trace : List Event) : List WorkerPipeline.Event :=
  trace.filterMap Event.pipeline?

def healthEvents (trace : List Event) : List HealthEvent := trace.filterMap Event.health?

def callEvents (trace : List Event) : List CallEvent := trace.filterMap Event.call?

section Parts

variable {config : RuntimeConfig} {trace : List Event} {state : State}

/-- **The pipeline of a run runs as a pipeline.** -/
theorem reaches_pipeline (run : (system config).Reaches trace state) :
    (WorkerPipeline.system config.pipeline).Reaches (pipelineEvents trace) state.pipeline := by
  refine run.project State.pipeline Event.pipeline? ?_ ?_
  · rintro _ ⟨_, pipeline, _, _, hmake, rfl⟩
    exact hmake
  · rintro state event next ⟨action, hperform⟩
    cases transition_of_perform hperform with
    | refused packet rest pipeline stands submits => exact ⟨_, submits⟩
    | submitted packet rest pipeline result stands settled submits => exact ⟨_, submits⟩
    | stopSteps timestamp action event pipeline stands steps stop => exact ⟨_, steps⟩
    | stopped timestamp pipeline metrics stands steps => exact ⟨_, steps⟩
    | took worker packet pipeline steps => exact ⟨_, steps⟩
    | exited worker pipeline steps => exact ⟨_, steps⟩
    | finished worker packet job pipeline job_eq phase steps => exact ⟨_, steps⟩
    | failed worker packet job pipeline job_eq phase steps => exact ⟨_, steps⟩
    | _ => rfl

/-- **The monitor of a run has seen the run's calls.** -/
theorem healthMonitor_eq {monitor : SourceHealthMonitor}
    (made : SourceHealthMonitor.make config.health = .ok monitor)
    (run : (system config).Reaches trace state) :
    state.healthMonitor = (monitor.runEvents (healthEvents trace)).1 := by
  rw [runEvents_fst]
  refine run.fold State.healthMonitor Event.health?
    (fun monitor event => (monitor.apply event).1) monitor ?_ ?_
  · rintro _ ⟨healthMonitor, _, _, hmake, _, rfl⟩
    exact Except.ok.inj (hmake.symm.trans made)
  · rintro state event next ⟨action, hperform⟩
    cases transition_of_perform hperform <;> rfl

/-- **The counters of the sample processor tally its calls.** -/
theorem sampleMetrics_tallied (run : (system config).Reaches trace state) :
    Tallied (callEvents trace) state.sampleMetrics := by
  have hfold := run.fold State.sampleMetrics Event.call? CallEvent.tally {} ?_ ?_
  · rw [hfold]
    exact SensorSampleProcessor.tallied_foldl _
  · rintro _ ⟨_, _, _, _, _, rfl⟩
    rfl
  · rintro state event next ⟨action, hperform⟩
    cases transition_of_perform hperform <;> rfl

/-- What the calls were told about the payloads is so. -/
theorem says_of_mem (run : (system config).Reaches trace state) :
    ∀ event ∈ trace, ∀ worker packet call, event = .sample worker packet call →
      call.Says packet := by
  refine run.forall_mem _ ?_
  rintro state event next ⟨action, hperform⟩ worker packet call rfl
  cases transition_of_perform hperform with
  | advanced _ _ _ _ _ _ _ _ _ sound => exact sound

/-- There is one job for each worker. -/
theorem length_jobs (run : (system config).Reaches trace state) :
    state.jobs.length = state.pipeline.workers.length := by
  have hjobs : state.jobs.length = config.pipeline.workerCount := by
    refine run.invariant (fun _ state => state.jobs.length = config.pipeline.workerCount) ?_ ?_
    · rintro _ ⟨_, _, _, _, _, rfl⟩
      exact List.length_replicate
    · rintro trace state event next _ hlength ⟨action, hperform⟩
      cases transition_of_perform hperform <;>
        first | exact hlength | exact List.length_set.trans hlength
  rw [hjobs, (WorkerPipeline.reaches_invariant (reaches_pipeline run)).2.workerCount]

/-! ## The flow of packets -/

/-- What a worker and its job hold: a packet, in a phase. -/
def slotHeld (slot : Worker × Job) : Option (Phase × ReceivedPacket) :=
  slot.1.held.map (slot.2.phase, ·)

/-- The workers, each with its job. -/
def slots (state : State) : List (Worker × Job) := state.pipeline.workers.zip state.jobs

/-- A worker is paired with its own job. -/
theorem slot_eq {workers : List Worker} {jobs : List Job} {index : Nat} {worker : Worker}
    {job : Job} (hworker : workers[index]? = some worker) (hjob : jobs[index]? = some job) :
    (workers.zip jobs)[index]? = some (worker, job) :=
  List.getElem?_zip_eq_some.mpr ⟨hworker, hjob⟩

/-- A job changes. -/
theorem zip_set_job {workers : List Worker} {index : Nat} {worker : Worker}
    (hworker : workers[index]? = some worker) (jobs : List Job) (job : Job) :
    workers.zip (jobs.set index job) = (workers.zip jobs).set index (worker, job) := by
  obtain ⟨hlt, rfl⟩ := List.getElem?_eq_some_iff.mp hworker
  rw [← zip_set, List.set_getElem_self]

/-- A worker changes. -/
theorem zip_set_worker {jobs : List Job} {index : Nat} {job : Job}
    (hjob : jobs[index]? = some job) (workers : List Worker) (worker : Worker) :
    (workers.set index worker).zip jobs = (workers.zip jobs).set index (worker, job) := by
  obtain ⟨hlt, rfl⟩ := List.getElem?_eq_some_iff.mp hjob
  rw [← zip_set, List.set_getElem_self]

/-- A worker has a job. -/
theorem exists_job {workers : List Worker} {jobs : List Job} {index : Nat}
    {worker : Worker} (length : jobs.length = workers.length)
    (h : workers[index]? = some worker) : ∃ job, jobs[index]? = some job := by
  obtain ⟨hlt, _⟩ := List.getElem?_eq_some_iff.mp h
  exact ⟨_, List.getElem?_eq_getElem (lt_of_lt_of_eq hlt length.symm)⟩

/-- **A step moves at most one packet from phase to phase.** -/
theorem moves {state next : State} {event : Event}
    (length : state.jobs.length = state.pipeline.workers.length)
    (step : Transition state event next) :
    (slots next = slots state ∧ event.departure = none ∧ event.arrival = none) ∨
      ∃ index old new, (slots state)[index]? = some old ∧
        slots next = (slots state).set index new ∧
        event.departure = slotHeld old ∧ event.arrival = slotHeld new := by
  cases step with
  | refused packet rest pipeline stands submits =>
    cases WorkerPipeline.transition_of_perform submits with
    | dropped => exact Or.inl ⟨rfl, rfl, rfl⟩
  | submitted packet rest pipeline result stands settled submits =>
    cases WorkerPipeline.transition_of_perform submits <;> exact Or.inl ⟨rfl, rfl, rfl⟩
  | stopSteps timestamp action event pipeline stands steps stop =>
    rcases stop with rfl | rfl <;>
      cases WorkerPipeline.transition_of_perform steps <;> exact Or.inl ⟨rfl, rfl, rfl⟩
  | stopped timestamp pipeline metrics stands steps =>
    cases WorkerPipeline.transition_of_perform steps with
    | stopReturned => exact Or.inl ⟨rfl, rfl, rfl⟩
  | took worker packet pipeline steps =>
    cases WorkerPipeline.transition_of_perform steps with
    | took _ _ rest idle front =>
      obtain ⟨job, hjob⟩ := exists_job length idle
      exact Or.inr ⟨worker, _, _, slot_eq idle hjob, zip_set _ _ _ _ _, rfl, rfl⟩
  | exited worker pipeline steps =>
    cases WorkerPipeline.transition_of_perform steps with
    | exited _ idle drained requested =>
      obtain ⟨job, hjob⟩ := exists_job length idle
      exact Or.inr ⟨worker, _, _, slot_eq idle hjob, zip_set _ _ _ _ _, rfl, rfl⟩
  | advanced worker packet call call' event busy job origin target sound =>
    refine Or.inr ⟨worker, _, _, slot_eq busy job, zip_set_job busy _ _, ?_, ?_⟩
    · exact congrArg (fun phase => some (phase, packet)) origin.symm
    · exact congrArg (fun phase => some (phase, packet)) target.symm
  | reported worker packet job busy job_eq phase =>
    refine Or.inr ⟨worker, _, _, slot_eq busy job_eq, zip_set_job busy _ _, ?_, rfl⟩
    exact congrArg (fun phase => some (phase, packet)) phase.symm
  | finished worker packet job pipeline job_eq phase steps =>
    cases WorkerPipeline.transition_of_perform steps with
    | returned _ _ busy =>
      refine Or.inr ⟨worker, _, _, slot_eq busy job_eq, zip_set_worker job_eq _ _, ?_, rfl⟩
      exact congrArg (fun phase => some (phase, packet)) phase.symm
  | failed worker packet job pipeline job_eq phase steps =>
    cases WorkerPipeline.transition_of_perform steps with
    | threw _ _ busy =>
      refine Or.inr ⟨worker, _, _, slot_eq busy job_eq, zip_set_worker job_eq _ _, ?_, rfl⟩
      exact congrArg (fun phase => some (phase, packet)) phase.symm
  | _ => exact Or.inl ⟨rfl, rfl, rfl⟩

/-- **The flow of packets**: what arrived in a phase departed from it or is still there. -/
theorem flow (run : (system config).Reaches trace state) :
    (trace.filterMap Event.arrival : Multiset (Phase × ReceivedPacket)) =
      trace.filterMap Event.departure + (slots state).filterMap slotHeld := by
  refine run.flow slots slotHeld Event.departure Event.arrival ?_ ?_
  · rintro _ ⟨_, pipeline, _, _, hmake, rfl⟩
    obtain ⟨_, _, rfl⟩ := WorkerPipeline.make_eq_ok hmake
    refine List.filterMap_eq_nil_iff.mpr fun slot hmem => ?_
    have hworker := List.eq_of_mem_replicate (List.of_mem_zip hmem).1
    rw [slotHeld, hworker]
    rfl
  · rintro trace state event next run ⟨action, hperform⟩
    exact moves (length_jobs run) (transition_of_perform hperform)

end Parts

end Run

end Driveflow.Runtime

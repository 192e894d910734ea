import Driveflow.Laws.Runtime.Ledger
import Driveflow.Laws.Runtime.QueueOrder
import Driveflow.Laws.Runtime.ConcurrentSamples

/-!
# The end of a run

A run whose stop predicate has begun to answer yes comes to an end, under every schedule. Each step
is paid for (`work`): a packet in the queue costs the steps of one pass through a worker, a packet
in a worker what is left of them, and the I/O thread the stages it has yet to pass. No reachable
state but the last one is stuck (`exists_step`): a `stop` that joins waits for a worker that can go
on.
-/

namespace Driveflow.Runtime

open Library Net Protocol

namespace Run

open WorkerPipeline (Worker)
open SensorSampleProcessor (Phase CallEvent Call)

/-! ## What is left to do -/

/-- The steps of a worker from a phase of the packet processor to its end. -/
def phaseWork : Phase → Nat
  | .entered => 7
  | .examined => 6
  | .decoded => 5
  | .counted => 4
  | .handling => 3
  | .rejected => 2
  | .done | .threw => 1

/-- The steps of a worker to its exit, if it finds nothing more in the queue. -/
def slotWork (slot : Worker × Job) : Nat :=
  match slot.1 with
  | .waiting => 1
  | .processing _ => 1 + phaseWork slot.2.phase
  | .exited => 0

/-- The steps of the I/O thread, if the stop predicate answers yes. -/
def stageWork (state : State) : Nat :=
  match state.stage with
  | .observing _ _ => 19
  -- a packet that is accepted becomes the work of a worker
  | .submitting _ _ => 18
  | .refused _ _ => 9
  | .counting _ | .polling => 8
  | .batch _ _ => 7
  | .deciding => 6
  | .leaving => 5
  | .stopping _ =>
    match state.pipeline.lifecycle with
    | .free => 4
    | .locked => 3
    | .joining => 2
  | .collecting _ _ => 1
  | .returned => 0

/-- What is left to do. -/
def work (state : State) : Nat :=
  stageWork state + 8 * state.pipeline.queue.length + ((slots state).map slotWork).sum

/-- The stop predicate, where it is asked, answers yes. -/
def Event.stops : Event → Prop
  | .stopAsked answer => answer = true
  | _ => True

section Steps

variable {config : RuntimeConfig} {state next : State} {event : Event}

/-- A call goes from a phase to one with less to do. -/
theorem phaseWork_target (event : CallEvent) :
    phaseWork event.target < phaseWork event.origin := by
  cases event <;> simp [CallEvent.target, CallEvent.origin, phaseWork]

theorem stageWork_continue (packets : List ReceivedPacket) :
    stageWork { state with stage := Stage.continue packets } ≤ 7 := by
  cases packets with
  | nil => exact (by decide : 6 ≤ 7)
  | cons packet rest => exact Nat.le_refl _

/-- A step of a worker moves its slot to one with less to do. -/
private theorem work_of_slot {index : Nat} {old new : Worker × Job} {queued : Nat}
    (stage : stageWork next = stageWork state)
    (queue : state.pipeline.queue.length = next.pipeline.queue.length + queued)
    (at_ : (slots state)[index]? = some old) (set : slots next = (slots state).set index new)
    (less : slotWork new < slotWork old + 8 * queued) : work next < work state := by
  have hsum := sum_map_set_add at_ slotWork new
  unfold work
  rw [set, stage, queue]
  omega

/-- A step of the I/O thread moves it on and leaves the workers alone. -/
private theorem work_of_stage (queue : next.pipeline.queue = state.pipeline.queue)
    (slots_eq : slots next = slots state) (less : stageWork next < stageWork state) :
    work next < work state := by
  unfold work
  rw [queue, slots_eq]
  omega

/-- **Every step is paid for**, once the stop predicate answers yes. -/
theorem work_lt (length : state.jobs.length = state.pipeline.workers.length)
    (stops : event.stops) (step : Transition state event next) : work next < work state := by
  cases step with
  | decided answer stands =>
    refine work_of_stage rfl rfl ?_
    have hanswer : answer = true := stops
    rw [hanswer, Bool.true_or, if_pos rfl]
    simp only [stageWork, stands]
    decide
  | checked answer packet rest stands =>
    refine work_of_stage rfl rfl ?_
    have hanswer : answer = true := stops
    rw [hanswer, Bool.true_or, if_pos rfl]
    simp only [stageWork, stands]
    decide
  | polled packets receiverMetrics stands =>
    refine work_of_stage rfl rfl ?_
    have hcontinue : stageWork { state with stage := Stage.continue packets, receiverMetrics } ≤ 7 :=
      stageWork_continue packets
    have hpolling : stageWork state = 8 := by simp only [stageWork, stands]
    omega
  | considered packet rest stands =>
    refine work_of_stage rfl rfl ?_
    simp only [stageWork, stands]
    decide
  | refused packet rest pipeline stands submits =>
    cases WorkerPipeline.transition_of_perform submits with
    | dropped =>
      refine work_of_stage rfl rfl ?_
      simp only [stageWork, stands]
      decide
  | submitted packet rest pipeline result stands settled submits =>
    have hsubmitting : stageWork state = 18 := by simp only [stageWork, stands]
    cases WorkerPipeline.transition_of_perform submits with
    | rejected =>
      refine work_of_stage rfl rfl ?_
      rw [hsubmitting]
      exact (by decide : 8 < 18)
    | dropped => exact absurd rfl settled
    | accepted =>
      -- what the I/O thread had to do is now partly in the queue
      unfold work
      rw [hsubmitting]
      change 8 + 8 * (state.pipeline.queue ++ [packet]).length + ((slots state).map slotWork).sum < _
      rw [List.length_append, List.length_singleton]
      omega
  | dropObserved packet rest stands =>
    refine work_of_stage rfl rfl ?_
    simp only [stageWork, stands]
    decide
  | counted rest stands =>
    refine work_of_stage rfl rfl ?_
    have hcontinue : stageWork { state with
        stage := Stage.continue rest, packetsReceived := state.packetsReceived + 1 } ≤ 7 :=
      stageWork_continue rest
    have hcounting : stageWork state = 8 := by simp only [stageWork, stands]
    omega
  | clockRead timestamp stands =>
    refine work_of_stage rfl rfl ?_
    have hleaving : stageWork state = 5 := by simp only [stageWork, stands]
    rw [hleaving]
    simp only [stageWork]
    cases state.pipeline.lifecycle <;> decide
  | stopSteps timestamp action event pipeline stands steps stop =>
    rcases stop with rfl | rfl
    · cases WorkerPipeline.transition_of_perform steps with
      | stopBegun free =>
        refine work_of_stage rfl rfl ?_
        simp only [stageWork, stands, free]
        decide
    · cases WorkerPipeline.transition_of_perform steps with
      | stopRequested locked =>
        refine work_of_stage rfl rfl ?_
        simp only [stageWork, stands, locked]
        decide
  | stopped timestamp pipeline metrics stands steps =>
    cases WorkerPipeline.transition_of_perform steps with
    | stopReturned joining joined =>
      refine work_of_stage rfl rfl ?_
      simp only [stageWork, stands, joining]
      decide
  | returned timestamp metrics stands =>
    refine work_of_stage rfl rfl ?_
    simp only [stageWork, stands]
    decide
  | took worker packet pipeline steps =>
    cases WorkerPipeline.transition_of_perform steps with
    | took _ _ rest idle front =>
      obtain ⟨job, hjob⟩ := exists_job length idle
      refine @work_of_slot _ _ worker _ (.processing packet, .processing .entered) 1 rfl ?_
        (slot_eq idle hjob) (zip_set _ _ _ _ _) ?_
      · rw [front]
        rfl
      · show 8 < 1 + 8
        decide
  | exited worker pipeline steps =>
    cases WorkerPipeline.transition_of_perform steps with
    | exited _ idle drained requested =>
      obtain ⟨job, hjob⟩ := exists_job length idle
      refine @work_of_slot _ _ worker _ (.exited, .processing .entered) 0 rfl rfl
        (slot_eq idle hjob) (zip_set _ _ _ _ _) ?_
      show 0 < 1
      decide
  | advanced worker packet call call' event busy job origin target sound =>
    refine @work_of_slot _ _ worker _ (.processing packet, .processing call') 0 rfl rfl
      (slot_eq busy job) (zip_set_job busy _ _) ?_
    have hless := phaseWork_target event
    have horigin : (Job.processing call).phase = event.origin := origin
    have htarget : (Job.processing call').phase = event.target := target
    simp only [slotWork, horigin, htarget]
    omega
  | reported worker packet job busy job_eq phase =>
    refine @work_of_slot _ _ worker _ (.processing packet, .reported) 0 rfl rfl
      (slot_eq busy job_eq) (zip_set_job busy _ _) ?_
    simp only [slotWork, phase]
    decide
  | finished worker packet job pipeline job_eq phase steps =>
    cases WorkerPipeline.transition_of_perform steps with
    | returned _ _ busy =>
      refine @work_of_slot _ _ worker _ (.waiting, job) 0 rfl rfl
        (slot_eq busy job_eq) (zip_set_worker job_eq _ _) ?_
      simp only [slotWork, phase]
      decide
  | failed worker packet job pipeline job_eq phase steps =>
    cases WorkerPipeline.transition_of_perform steps with
    | threw _ _ busy =>
      refine @work_of_slot _ _ worker _ (.waiting, job) 0 rfl rfl
        (slot_eq busy job_eq) (zip_set_worker job_eq _ _) ?_
      simp only [slotWork, phase]
      decide

end Steps

/-! ## What can go on -/

/-- Some thread can go on, the stop predicate answering yes if that is what the thread asks. -/
def Goes (state : State) : Prop :=
  ∃ action result, perform state action = some result ∧ result.2.stops

section Progress

variable {config : RuntimeConfig} {trace : List Event} {state : State}

/-- A worker inside the packet processor can go on. -/
theorem exists_step_of_busy (run : (system config).Reaches trace state) {worker : Nat}
    {packet : ReceivedPacket}
    (busy : state.pipeline.workers[worker]? = some (.processing packet)) :
    Goes state := by
  have hpacket : processed? state worker = some packet := by
    simp only [processed?, busy]
  obtain ⟨job, hjob⟩ := exists_job (length_jobs run) busy
  have hfinish (throws : Bool) : ∃ pipeline event, performPipeline state (.finish worker throws) =
      some ({ state with pipeline }, event) := by
    simp only [performPipeline, WorkerPipeline.perform, WorkerPipeline.finish, busy]
    cases throws <;> exact ⟨_, _, rfl⟩
  -- the packet processor is done, and the worker's second critical section is next
  have finishes (throws : Bool) (h : finish state worker = (performPipeline state
      (.finish worker throws)).bind fun result => some (result.1, Event.pipeline result.2)) :
      Goes state := by
    obtain ⟨pipeline, event, hperform⟩ := hfinish throws
    rw [hperform] at h
    exact ⟨.finish worker, _, h, trivial⟩
  cases job with
  | reported =>
    refine finishes false ?_
    simp only [finish, hjob]
    rfl
  | processing call =>
    by_cases hcall : call.finished = true
    · cases call with
      | returned error =>
        by_cases herror : error = .kNone
        · subst herror
          refine finishes false ?_
          simp only [finish, hjob]
          rfl
        · refine ⟨.observeRejection worker, ?_⟩
          simp only [perform, observeRejection, hpacket, hjob, Option.bind_eq_bind,
            Option.bind_some, ne_eq, herror, not_false_eq_true, if_true]
          exact ⟨_, rfl, trivial⟩
      | threw =>
        refine finishes true ?_
        simp only [finish, hjob]
        rfl
      | _ => cases hcall
    · obtain ⟨⟨metrics, call', event⟩, hadvance⟩ := SensorSampleProcessor.exists_advance
        state.sampleMetrics packet false (Bool.not_eq_true _ ▸ hcall)
      refine ⟨.advance worker false, ?_⟩
      simp only [perform, advance, hpacket, hjob, hadvance, Option.bind_eq_bind, Option.bind_some]
      exact ⟨_, rfl, trivial⟩

/-- A worker that waits can go on, once a stop is requested. -/
theorem exists_step_of_waiting {worker : Nat}
    (idle : state.pipeline.workers[worker]? = some .waiting)
    (requested : state.pipeline.stopRequested = true) :
    Goes state := by
  have hacquire : ∃ pipeline event,
      state.pipeline.perform (.acquire worker) = some (pipeline, event) := by
    simp only [WorkerPipeline.perform, WorkerPipeline.acquire, idle]
    cases state.pipeline.queue with
    | nil =>
      rw [if_pos requested]
      exact ⟨_, _, rfl⟩
    | cons packet queue => exact ⟨_, _, rfl⟩
  obtain ⟨pipeline, event, hperform⟩ := hacquire
  refine ⟨.acquire worker, ?_⟩
  simp only [perform, acquire, performPipeline, hperform, Option.bind_eq_bind, Option.bind_some]
  exact ⟨_, rfl, trivial⟩

/-- **No reachable state is stuck**, until `run` has returned: the stop predicate may answer yes
wherever it is asked. -/
theorem exists_step (run : (system config).Reaches trace state)
    (running : state.stage ≠ .returned) :
    Goes state := by
  have hdraining := (WorkerPipeline.reaches_invariant (reaches_pipeline run)).2
  cases hstage : state.stage with
  | deciding =>
    refine ⟨.askStop true, ?_⟩
    simp only [perform, hstage]
    exact ⟨_, rfl, rfl⟩
  | polling =>
    refine ⟨.poll [] {}, ?_⟩
    simp only [perform, hstage]
    exact ⟨_, rfl, trivial⟩
  | batch packet rest =>
    refine ⟨.askStop true, ?_⟩
    simp only [perform, hstage]
    exact ⟨_, rfl, rfl⟩
  | observing packet rest =>
    refine ⟨.observePacket, ?_⟩
    simp only [perform, hstage]
    exact ⟨_, rfl, trivial⟩
  | submitting packet rest =>
    refine ⟨.trySubmit, ?_⟩
    simp only [perform, hstage]
    exact ⟨_, rfl, trivial⟩
  | refused packet rest =>
    refine ⟨.observeQueueDrop, ?_⟩
    simp only [perform, hstage]
    exact ⟨_, rfl, trivial⟩
  | counting rest =>
    refine ⟨.countPacket, ?_⟩
    simp only [perform, hstage]
    exact ⟨_, rfl, trivial⟩
  | leaving =>
    refine ⟨.readClock 0, ?_⟩
    simp only [perform, hstage]
    exact ⟨_, rfl, trivial⟩
  | stopping timestamp =>
    cases hlifecycle : state.pipeline.lifecycle with
    | free =>
      refine ⟨.lockLifecycle, ?_⟩
      simp only [perform, hstage, performPipeline, WorkerPipeline.perform, hlifecycle, if_true,
        Option.bind_eq_bind, Option.bind_some]
      exact ⟨_, rfl, trivial⟩
    | locked =>
      refine ⟨.requestStop, ?_⟩
      simp only [perform, hstage, performPipeline, WorkerPipeline.perform, hlifecycle, if_true,
        Option.bind_eq_bind, Option.bind_some]
      exact ⟨_, rfl, trivial⟩
    | joining =>
      -- the join waits for a worker, and that one can go on
      by_cases hexited : state.pipeline.workers.all (· = .exited) = true
      · refine ⟨.returnStop, ?_⟩
        simp only [perform, hstage, performPipeline, WorkerPipeline.perform, hlifecycle, hexited,
          and_self, if_true, Option.bind_eq_bind, Option.bind_some]
        exact ⟨_, rfl, trivial⟩
      · simp only [List.all_eq_true, decide_eq_true_eq, not_forall] at hexited
        obtain ⟨worker, hmem, hrunning⟩ := hexited
        obtain ⟨index, hindex⟩ := List.mem_iff_getElem?.mp hmem
        cases worker with
        | waiting => exact exists_step_of_waiting hindex (hdraining.joining hlifecycle)
        | processing packet => exact exists_step_of_busy run hindex
        | exited => exact absurd rfl hrunning
  | collecting timestamp metrics =>
    refine ⟨.summarise, ?_⟩
    simp only [perform, hstage]
    exact ⟨_, rfl, trivial⟩
  | returned => exact absurd hstage running

/-! ## The end -/

/-- A worker is at most eight steps from its exit. -/
theorem slotWork_le (slot : Worker × Job) : slotWork slot ≤ 8 := by
  unfold slotWork
  split
  · decide
  · cases slot.2.phase <;> decide
  · decide

/-- The I/O thread and the packet in its hands are at most nineteen steps from the end. -/
theorem stageWork_le (state : State) : stageWork state ≤ 19 := by
  unfold stageWork
  split <;> try omega
  split <;> omega

/-- What is left to the workers is bounded by the size of the pipeline, in every reachable state. -/
theorem work_le (run : (system config).Reaches trace state) :
    work state ≤
      stageWork state + 8 * (config.pipeline.queueCapacity + config.pipeline.workerCount) := by
  have hpipeline := reaches_pipeline run
  have hqueue := WorkerPipeline.queue_bounded hpipeline
  have hworkers := (WorkerPipeline.reaches_invariant hpipeline).2.workerCount
  have hslots : ((slots state).map slotWork).sum ≤ (slots state).length * 8 := by
    refine (List.sum_le_card_nsmul _ 8 ?_).trans_eq ?_
    · intro weight hweight
      obtain ⟨slot, _, rfl⟩ := List.mem_map.mp hweight
      exact slotWork_le slot
    · rw [List.length_map, smul_eq_mul]
  have hlength : (slots state).length ≤ config.pipeline.workerCount := by
    rw [slots, List.length_zip, ← hworkers]
    exact Nat.min_le_left _ _
  unfold work
  omega

/-- A run that has come to `returned` has returned a summary. -/
theorem returned_mem {labels : List Event} {next : State}
    (path : (system config).Path state labels next) (running : state.stage ≠ .returned)
    (returned : next.stage = .returned) : ∃ summary, Event.returned summary ∈ labels := by
  induction path with
  | nil => exact absurd returned running
  | @snoc labels middle event next path step ih =>
    by_cases hmiddle : middle.stage = .returned
    · obtain ⟨summary, hmem⟩ := ih hmiddle
      exact ⟨summary, List.mem_append_left _ hmem⟩
    · obtain ⟨action, hperform⟩ := step
      cases transition_of_perform hperform with
      | returned timestamp metrics stands =>
        exact ⟨_, List.mem_append_right _ List.mem_cons_self⟩
      | decided answer stands =>
        dsimp only at returned
        split at returned <;> cases returned
      | checked answer packet rest stands =>
        dsimp only at returned
        split at returned <;> cases returned
      | polled packets receiverMetrics stands => cases packets <;> cases returned
      | counted rest stands => cases rest <;> cases returned
      | stopSteps => exact absurd returned hmiddle
      | took | exited | advanced | reported | finished | failed => exact absurd returned hmiddle
      | _ => cases returned

/-- **The shutdown terminates.** From any reachable state, under every schedule, as long as the stop
predicate answers yes where it is asked: `run` makes at most so many steps more, at each of them
some thread can go on, and it returns a summary. -/
theorem shutdown_terminates (config : RuntimeConfig) (trace : List Event) (state : State)
    (run : (system config).Reaches trace state) (running : state.stage ≠ .returned) :
    (∀ labels next, (system config).Path state labels next → (∀ event ∈ labels, event.stops) →
      labels.length ≤ 8 * (config.pipeline.queueCapacity + config.pipeline.workerCount) + 19 ∧
        (next.stage = .returned ∨ Goes next)) ∧
      ∃ labels next summary, (system config).Path state labels next ∧
        (∀ event ∈ labels, event.stops) ∧ Event.returned summary ∈ labels ∧
        next.stage = .returned := by
  have hdecreases (state : State) (event : Event) (next : State)
      (h : (system config).Reachable state) (stops : event.stops)
      (step : (system config).step state event next) :
      (system config).Reachable next ∧ work next < work state := by
    refine ⟨h.step step, ?_⟩
    obtain ⟨trace, hrun⟩ := h
    obtain ⟨action, hperform⟩ := step
    exact work_lt (length_jobs hrun) stops (transition_of_perform hperform)
  constructor
  · intro labels next path hstops
    obtain ⟨⟨trace', hrun⟩, hsum⟩ := path.countP_add_le (system config).Reachable ⟨trace, run⟩ work
      Event.stops (fun _ => true) hdecreases hstops
    constructor
    · rw [List.countP_true] at hsum
      have hbound := work_le run
      have hstage := stageWork_le state
      omega
    · by_cases hreturned : next.stage = .returned
      · exact Or.inl hreturned
      · exact Or.inr (exists_step hrun hreturned)
  · have hprogress (state : State) (h : (system config).Reachable state)
        (hrunning : state.stage ≠ .returned) :
        ∃ event next, event.stops ∧ (system config).step state event next := by
      obtain ⟨trace, hrun⟩ := h
      obtain ⟨action, ⟨next, event⟩, hperform, hstops⟩ := exists_step hrun hrunning
      exact ⟨event, next, hstops, action, hperform⟩
    obtain ⟨labels, next, hpath, hreturned, hstops⟩ := System.Path.exists_final
      (system config).Reachable ⟨trace, run⟩ work Event.stops
      (fun state => state.stage = .returned) hdecreases hprogress
    obtain ⟨summary, hmem⟩ := returned_mem hpath running hreturned
    exact ⟨labels, next, summary, hpath, hstops, hmem, hreturned⟩

/-- The only worker is in the sample handler with a camera frame, a packet waits in the queue of one,
and a third one is left of the batch: the run ends within 35 steps of its stop. -/
theorem shutdown_terminates_handling :
    ∃ trace state labels next summary,
      (system { pipeline := { workerCount := 1, queueCapacity := 1 } }).Reaches trace state ∧
      (handlerInvocations trace).length = 1 ∧
      state.pipeline.workers = [.processing cameraPacket] ∧ state.pipeline.queue = [{}] ∧
      state.stage = .batch {} [] ∧
      (system { pipeline := { workerCount := 1, queueCapacity := 1 } }).Path state labels next ∧
      (∀ event ∈ labels, event.stops) ∧ labels.length ≤ 35 ∧ Event.returned summary ∈ labels := by
  let config : RuntimeConfig := { pipeline := { workerCount := 1, queueCapacity := 1 } }
  let actions : List Action :=
    [.askStop false, .poll [cameraPacket, {}, {}] {},
      .askStop false, .observePacket, .trySubmit, .countPacket,
      .acquire 0, .advance 0 false, .advance 0 false, .advance 0 false, .advance 0 false,
      .askStop false, .observePacket, .trySubmit, .countPacket]
  have hschedule : ((performAll perform (startState config) actions).map fun result =>
      ((handlerInvocations result.2).length, result.1.pipeline.workers, result.1.pipeline.queue,
        result.1.stage)) =
      some (1, [.processing cameraPacket], [{}], .batch {} []) := by
    decide +kernel
  obtain ⟨⟨state, trace⟩, hactions, hresult⟩ := Option.map_eq_some_iff.mp hschedule
  simp only [Prod.mk.injEq] at hresult
  obtain ⟨hhandling, hworkers, hqueue, hstage⟩ := hresult
  have hstart : (system config).initial (startState config) := ⟨_, _, _, rfl, rfl, rfl⟩
  have hrun := (System.Reaches.start hstart).performAll (fun _ action _ _ h => ⟨action, h⟩) _
    hactions
  obtain ⟨hbound, labels, next, summary, hpath, hstops, hmem, _⟩ :=
    shutdown_terminates config trace state hrun (by rw [hstage]; simp)
  exact ⟨trace, state, labels, next, summary, hrun, hhandling, hworkers, hqueue, hstage, hpath,
    hstops, (hbound labels next hpath hstops).1, hmem⟩

end Progress

end Run

end Driveflow.Runtime

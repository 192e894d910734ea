import Driveflow.Laws.Runtime.ExactlyOnce
import Driveflow.Runtime.WorkerWakeups

/-!
# No lost wake-up

A notification is sent after the lock is released, it may find nobody asleep, and the worker it
wakes may find that another one took the packet. `Wakeful` is what holds all the same, between any
two steps: a packet in the queue has a notification on its way or a worker that is awake, and once a
stop is requested its notification is on its way or nobody sleeps. So the pipeline is never stuck
with work to do (`no_lost_wakeup`).
-/

namespace Driveflow.Runtime

open Library

namespace WorkerWakeups

open WorkerPipeline (Worker Draining)

/-- The worker is running: it neither sleeps nor has it returned. -/
def Awake (wakeups : WorkerWakeups) (worker : Nat) : Prop :=
  worker ∉ wakeups.asleep ∧
    ∃ state, wakeups.pipeline.workers[worker]? = some state ∧ state ≠ .exited

/-! ## What one step can do -/

/-- The steps, with their guards. -/
inductive Transition (wakeups : WorkerWakeups) : Event → WorkerWakeups → Prop where
  | accepted {packet pipeline}
    (step : WorkerPipeline.Transition wakeups.pipeline (.submitted packet .kAccepted) pipeline) :
    Transition wakeups (.pipeline (.submitted packet .kAccepted))
      { wakeups with pipeline, notifyOnes := wakeups.notifyOnes + 1 }
  | stopRequested {pipeline}
    (step : WorkerPipeline.Transition wakeups.pipeline .stopRequested pipeline) :
    Transition wakeups (.pipeline .stopRequested) { wakeups with pipeline, notifyAll := true }
  | moved {event pipeline} (step : WorkerPipeline.Transition wakeups.pipeline event pipeline)
    (silent : (∀ packet, event ≠ .submitted packet .kAccepted) ∧ event ≠ .stopRequested)
    (running : ∀ worker, event = .exited worker ∨ (∃ packet, event = .took worker packet) →
      worker ∉ wakeups.asleep) :
    Transition wakeups (.pipeline event) { wakeups with pipeline }
  | notifiedOne {woken} (owed : 0 < wakeups.notifyOnes) (may : wakeups.mayWake woken = true) :
    Transition wakeups (.notifiedOne woken)
      { wakeups with
        asleep := wakeups.asleep \ woken.toFinset, notifyOnes := wakeups.notifyOnes - 1 }
  | notifiedAll (owed : wakeups.notifyAll = true) :
    Transition wakeups .notifiedAll { wakeups with asleep := ∅, notifyAll := false }
  | slept {worker} (idle : wakeups.pipeline.workers[worker]? = some .waiting)
    (drained : wakeups.pipeline.queue = []) (open_ : wakeups.pipeline.stopRequested = false) :
    Transition wakeups (.slept worker) { wakeups with asleep := insert worker wakeups.asleep }
  | woke {worker} (sleeping : worker ∈ wakeups.asleep) :
    Transition wakeups (.woke worker) { wakeups with asleep := wakeups.asleep.erase worker }

section Steps

variable {wakeups next : WorkerWakeups} {event : Event}

/-- What a worker's first critical section is seen to do. -/
private theorem event_of_acquire {pipeline pipeline' : WorkerPipeline} {worker : Nat}
    {inner : WorkerPipeline.Event}
    (h : pipeline.perform (.acquire worker) = some (pipeline', inner)) :
    inner = .exited worker ∨ ∃ packet, inner = .took worker packet := by
  simp only [WorkerPipeline.perform, WorkerPipeline.acquire] at h
  split at h
  next =>
    split at h
    next =>
      split at h
      next =>
        cases h
        exact Or.inl rfl
      next => cases h
    next packet _ _ =>
      cases h
      exact Or.inr ⟨packet, rfl⟩
  next => cases h

/-- What its second one is seen to do. -/
private theorem event_of_finish {pipeline pipeline' : WorkerPipeline} {worker : Nat}
    {throws : Bool} {inner : WorkerPipeline.Event}
    (h : pipeline.perform (.finish worker throws) = some (pipeline', inner)) :
    ∃ packet, inner = .threw worker packet ∨ inner = .returned worker packet := by
  simp only [WorkerPipeline.perform, WorkerPipeline.finish] at h
  split at h
  next packet _ =>
    refine ⟨packet, ?_⟩
    split at h
    · cases h
      exact Or.inl rfl
    · cases h
      exact Or.inr rfl
  next => cases h

/-- What a step of the pipeline is here. -/
theorem lift_eq_some {action : WorkerPipeline.Action}
    (h : wakeups.lift action = some (next, event)) :
    ∃ pipeline inner, WorkerPipeline.perform wakeups.pipeline action = some (pipeline, inner) ∧
      next = { wakeups with pipeline } ∧ event = .pipeline inner := by
  obtain ⟨⟨pipeline, inner⟩, hperform, heq⟩ := Option.map_eq_some_iff.mp h
  cases heq
  exact ⟨pipeline, inner, hperform, rfl, rfl⟩

/-- Every step is one of these. -/
theorem transition_of_perform {action : Action} (h : wakeups.perform action = some (next, event)) :
    Transition wakeups event next := by
  cases action with
  | trySubmit packet =>
    have hstep : WorkerPipeline.perform wakeups.pipeline (.trySubmit packet) =
        some ((wakeups.pipeline.trySubmit packet).1,
          .submitted packet (wakeups.pipeline.trySubmit packet).2.1) := rfl
    have htransition := WorkerPipeline.transition_of_perform hstep
    simp only [perform, Option.some.injEq, Prod.mk.injEq] at h
    obtain ⟨rfl, rfl⟩ := h
    by_cases haccepted : (wakeups.pipeline.trySubmit packet).2.1 = .kAccepted
    · rw [if_pos haccepted]
      rw [haccepted] at htransition ⊢
      exact .accepted htransition
    · rw [if_neg haccepted]
      refine .moved htransition ⟨fun _ heq => ?_, by simp⟩ (by simp)
      exact haccepted (WorkerPipeline.Event.submitted.inj heq).2
  | notifyOne woken =>
    simp only [perform] at h
    split at h
    next hguard =>
      cases h
      exact .notifiedOne hguard.1 hguard.2
    next => cases h
  | sleep worker =>
    simp only [perform] at h
    split at h
    next hguard =>
      cases h
      exact .slept hguard.1 hguard.2.2.1 hguard.2.2.2
    next => cases h
  | wake worker =>
    simp only [perform] at h
    split at h
    next hguard =>
      cases h
      exact .woke hguard
    next => cases h
  | acquire worker =>
    simp only [perform] at h
    split at h
    next => cases h
    next hawake =>
      obtain ⟨pipeline, inner, hperform, rfl, rfl⟩ := lift_eq_some h
      have hstep := WorkerPipeline.transition_of_perform hperform
      rcases event_of_acquire hperform with rfl | ⟨packet, rfl⟩
      · refine .moved hstep (by simp) fun other hother => ?_
        rcases hother with hother | ⟨_, hother⟩ <;> cases hother
        exact hawake
      · refine .moved hstep (by simp) fun other hother => ?_
        rcases hother with hother | ⟨_, hother⟩ <;> cases hother
        exact hawake
  | finish worker throws =>
    obtain ⟨pipeline, inner, hperform, rfl, rfl⟩ := lift_eq_some h
    have hstep := WorkerPipeline.transition_of_perform hperform
    obtain ⟨packet, rfl | rfl⟩ := event_of_finish hperform
    · exact .moved hstep (by simp) (by simp)
    · exact .moved hstep (by simp) (by simp)
  | lockLifecycle =>
    obtain ⟨pipeline, inner, hperform, rfl, rfl⟩ := lift_eq_some h
    have hstep := WorkerPipeline.transition_of_perform hperform
    simp only [WorkerPipeline.perform] at hperform
    split at hperform
    next =>
      cases hperform
      exact .moved hstep (by simp) (by simp)
    next => cases hperform
  | requestStop =>
    simp only [perform] at h
    obtain ⟨⟨lifted, outer⟩, hlift, heq⟩ := Option.map_eq_some_iff.mp h
    obtain ⟨pipeline, inner, hperform, rfl, rfl⟩ := lift_eq_some hlift
    have hstep := WorkerPipeline.transition_of_perform hperform
    cases heq
    simp only [WorkerPipeline.perform] at hperform
    split at hperform
    next =>
      cases hperform
      exact .stopRequested hstep
    next => cases hperform
  | notifyAll =>
    simp only [perform] at h
    split at h
    next hguard =>
      cases h
      exact .notifiedAll hguard
    next => cases h
  | returnStop =>
    simp only [perform] at h
    split at h
    next => cases h
    next =>
      obtain ⟨pipeline, inner, hperform, rfl, rfl⟩ := lift_eq_some h
      have hstep := WorkerPipeline.transition_of_perform hperform
      simp only [WorkerPipeline.perform] at hperform
      split at hperform
      next =>
        cases hperform
        exact .moved hstep (by simp) (by simp)
      next => cases hperform

end Steps

/-! ## What holds between any two steps -/

/-- Nothing that has to be noticed goes unnoticed. -/
structure Wakeful (config : WorkerPipelineConfig) (wakeups : WorkerWakeups) : Prop where
  draining : Draining config wakeups.pipeline
  sleeping : ∀ worker ∈ wakeups.asleep, wakeups.pipeline.workers[worker]? = some .waiting
  queued : wakeups.pipeline.queue ≠ [] → 0 < wakeups.notifyOnes ∨ ∃ worker, wakeups.Awake worker
  stopping : wakeups.pipeline.stopRequested = true → wakeups.notifyAll = true ∨ wakeups.asleep = ∅

section Invariant

variable {config : WorkerPipelineConfig} {wakeups next : WorkerWakeups} {event : Event}

/-- A worker after a step of its own is awake. -/
private theorem awake_set {workers : List Worker} {worker : Nat} {old new : Worker}
    (h : workers[worker]? = some old) (running : new ≠ .exited) :
    ∃ state, (workers.set worker new)[worker]? = some state ∧ state ≠ .exited := by
  obtain ⟨hlt, _⟩ := List.getElem?_eq_some_iff.mp h
  exact ⟨new, List.getElem?_set_self hlt, running⟩

/-- Who sleeps is not the one that steps. -/
private theorem sleeping_set (h : Wakeful config wakeups) {worker : Nat} (new : Worker)
    (running : worker ∉ wakeups.asleep) :
    ∀ other ∈ wakeups.asleep, (wakeups.pipeline.workers.set worker new)[other]? =
      some .waiting := by
  intro other hmem
  have hne : worker ≠ other := by
    rintro rfl
    exact running hmem
  rw [List.getElem?_set_ne hne]
  exact h.sleeping other hmem

/-- A worker in a processor call does not sleep. -/
private theorem not_asleep_of_busy (h : Wakeful config wakeups) {worker : Nat}
    {packet : ReceivedPacket}
    (busy : wakeups.pipeline.workers[worker]? = some (.processing packet)) :
    worker ∉ wakeups.asleep := by
  intro hmem
  rw [h.sleeping worker hmem] at busy
  cases busy

/-- A step of the pipeline that owes no notification. -/
theorem Wakeful.moved (h : Wakeful config wakeups) {inner : WorkerPipeline.Event}
    {pipeline : WorkerPipeline} (step : WorkerPipeline.Transition wakeups.pipeline inner pipeline)
    (silent : (∀ packet, inner ≠ .submitted packet .kAccepted) ∧ inner ≠ .stopRequested)
    (running : ∀ worker, inner = .exited worker ∨ (∃ packet, inner = .took worker packet) →
      worker ∉ wakeups.asleep) :
    Wakeful config { wakeups with pipeline } := by
  have hdraining := h.draining.step step
  cases step with
  | rejected | dropped | stopBegun | stopReturned =>
    exact ⟨hdraining, h.sleeping, h.queued, h.stopping⟩
  | accepted packet => exact absurd rfl (silent.1 packet)
  | stopRequested => exact absurd rfl silent.2
  | took worker packet rest idle front =>
    have hawake := running worker (Or.inr ⟨packet, rfl⟩)
    refine ⟨hdraining, sleeping_set h _ hawake, fun _ => Or.inr ⟨worker, hawake, ?_⟩, h.stopping⟩
    exact awake_set idle nofun
  | exited worker idle drained requested =>
    have hawake := running worker (Or.inl rfl)
    exact ⟨hdraining, sleeping_set h _ hawake, fun hqueue => absurd drained hqueue, h.stopping⟩
  | returned worker packet busy =>
    have hawake := not_asleep_of_busy h busy
    refine ⟨hdraining, sleeping_set h _ hawake, fun _ => Or.inr ⟨worker, hawake, ?_⟩, h.stopping⟩
    exact awake_set busy nofun
  | threw worker packet busy =>
    have hawake := not_asleep_of_busy h busy
    refine ⟨hdraining, sleeping_set h _ hawake, fun _ => Or.inr ⟨worker, hawake, ?_⟩, h.stopping⟩
    exact awake_set busy nofun

/-- While something is queued, no worker has returned. -/
private theorem not_exited_of_queued (h : Wakeful config wakeups)
    (queued : wakeups.pipeline.queue ≠ []) {worker : Nat} {state : Worker}
    (hworker : wakeups.pipeline.workers[worker]? = some state) : state ≠ .exited := fun hexited =>
  queued (h.draining.drained state (List.mem_of_getElem? hworker) hexited).2

/-- **One step loses no wake-up.** -/
theorem Wakeful.step (h : Wakeful config wakeups) (workers : config.workerCount ≠ 0)
    (step : Transition wakeups event next) : Wakeful config next := by
  cases step with
  | @accepted packet pipeline step =>
    have hdraining := h.draining.step step
    cases step with
    | accepted =>
      exact ⟨hdraining, h.sleeping, fun _ => Or.inl (Nat.succ_pos _), h.stopping⟩
  | @stopRequested pipeline step =>
    have hdraining := h.draining.step step
    cases step with
    | stopRequested => exact ⟨hdraining, h.sleeping, h.queued, fun _ => Or.inl rfl⟩
  | moved step silent running => exact h.moved step silent running
  | @notifiedOne woken owed may =>
    have hfewer : wakeups.asleep \ woken.toFinset ⊆ wakeups.asleep := Finset.sdiff_subset
    refine ⟨h.draining, fun worker hmem => h.sleeping worker (hfewer hmem), fun hqueued => ?_,
      fun hrequested => ?_⟩
    · refine Or.inr ?_
      cases woken with
      | some worker =>
        -- the worker that is woken
        have hidle := h.sleeping worker (of_decide_eq_true may)
        refine ⟨worker, fun hmem => ?_, _, hidle, nofun⟩
        exact (Finset.mem_sdiff.mp hmem).2 (Finset.mem_singleton_self worker)
      | none =>
        -- nobody sleeps, and there is somebody
        have hnobody : wakeups.asleep = ∅ := of_decide_eq_true may
        have hpositive : 0 < wakeups.pipeline.workers.length := by
          rw [h.draining.workerCount]
          exact Nat.pos_of_ne_zero workers
        have hfirst := List.getElem?_eq_getElem hpositive
        refine ⟨0, fun hmem => ?_, _, hfirst, not_exited_of_queued h hqueued hfirst⟩
        exact Finset.notMem_empty 0 (hnobody ▸ hfewer hmem)
    · refine (h.stopping hrequested).imp_right fun hnobody => ?_
      exact Finset.subset_empty.mp (hnobody ▸ hfewer)
  | notifiedAll owed =>
    refine ⟨h.draining, fun _ hmem => absurd hmem (Finset.notMem_empty _), fun hqueued => ?_,
      fun _ => Or.inr rfl⟩
    refine (h.queued hqueued).imp_right fun ⟨worker, _, hworker⟩ => ?_
    exact ⟨worker, Finset.notMem_empty worker, hworker⟩
  | @slept worker idle drained open_ =>
    refine ⟨h.draining, fun other hmem => ?_, fun hqueued => absurd drained hqueued,
      fun hrequested => ?_⟩
    · rcases Finset.mem_insert.mp hmem with rfl | hmem
      · exact idle
      · exact h.sleeping other hmem
    · exact absurd (open_.symm.trans hrequested) Bool.false_ne_true
  | @woke worker sleeping =>
    have hfewer : wakeups.asleep.erase worker ⊆ wakeups.asleep := Finset.erase_subset _ _
    refine ⟨h.draining, fun other hmem => h.sleeping other (hfewer hmem), fun _ => Or.inr ?_,
      fun hrequested => ?_⟩
    · exact ⟨worker, Finset.notMem_erase worker _, _, h.sleeping worker sleeping, nofun⟩
    · refine (h.stopping hrequested).imp_right fun hnobody => ?_
      exact Finset.subset_empty.mp (hnobody ▸ hfewer)

/-- **Every reachable state is wakeful.** -/
theorem reaches_wakeful {trace : List Event} (run : (system config).Reaches trace wakeups) :
    config.workerCount ≠ 0 ∧ Wakeful config wakeups := by
  refine run.invariant (fun _ wakeups => config.workerCount ≠ 0 ∧ Wakeful config wakeups) ?_ ?_
  · rintro _ ⟨pipeline, hmake, rfl⟩
    have hstart : (WorkerPipeline.system config).Reaches [] pipeline := .start hmake
    obtain ⟨hworkers, _, rfl⟩ := WorkerPipeline.make_eq_ok hmake
    refine ⟨hworkers, (WorkerPipeline.reaches_invariant hstart).2, ?_, fun h => absurd rfl h,
      fun _ => Or.inr rfl⟩
    exact fun _ hmem => absurd hmem (Finset.notMem_empty _)
  · rintro trace wakeups event next _ ⟨hworkers, hwakeful⟩ ⟨action, hperform⟩
    exact ⟨hworkers, hwakeful.step hworkers (transition_of_perform hperform)⟩

end Invariant

/-! ## Progress -/

/-- The pipeline's event, if the step is one of its own. -/
def Event.pipeline? : Event → Option WorkerPipeline.Event
  | .pipeline event => some event
  | _ => none

/-- A step is a step of the pipeline, or leaves it alone. -/
theorem pipeline_of_perform {wakeups next : WorkerWakeups} {action : Action} {event : Event}
    (h : wakeups.perform action = some (next, event)) :
    match event.pipeline? with
    | none => next.pipeline = wakeups.pipeline
    | some inner =>
      ∃ action, WorkerPipeline.perform wakeups.pipeline action = some (next.pipeline, inner) := by
  have hlift {action : WorkerPipeline.Action} {next : WorkerWakeups} {event : Event}
      (h : wakeups.lift action = some (next, event)) :
      match event.pipeline? with
      | none => next.pipeline = wakeups.pipeline
      | some inner =>
        ∃ action, WorkerPipeline.perform wakeups.pipeline action =
          some (next.pipeline, inner) := by
    obtain ⟨pipeline, inner, hperform, rfl, rfl⟩ := lift_eq_some h
    exact ⟨action, hperform⟩
  cases action with
  | trySubmit packet =>
    cases h
    exact ⟨.trySubmit packet, rfl⟩
  | notifyOne | sleep | wake | notifyAll =>
    simp only [perform] at h
    split at h
    next =>
      cases h
      rfl
    next => cases h
  | acquire | returnStop =>
    simp only [perform] at h
    split at h
    next => cases h
    next => exact hlift h
  | finish | lockLifecycle => exact hlift h
  | requestStop =>
    obtain ⟨⟨lifted, outer⟩, hlifted, heq⟩ := Option.map_eq_some_iff.mp h
    cases heq
    have hstep := hlift hlifted
    exact hstep

section Progress

variable {config : WorkerPipelineConfig} {wakeups : WorkerWakeups} {trace : List Event}

/-- **A run is a run of the pipeline**, whose waits are shorter. -/
theorem reaches_pipeline (run : (system config).Reaches trace wakeups) :
    (WorkerPipeline.system config).Reaches (trace.filterMap Event.pipeline?) wakeups.pipeline := by
  refine run.project WorkerWakeups.pipeline Event.pipeline? ?_ ?_
  · rintro _ ⟨pipeline, hmake, rfl⟩
    exact hmake
  · rintro _ event _ ⟨action, hperform⟩
    have hstep := pipeline_of_perform hperform
    cases hevent : event.pipeline? with
    | none =>
      rw [hevent] at hstep
      exact hstep
    | some inner =>
      rw [hevent] at hstep
      exact hstep

/-- The steps of a worker that works, and of a notification. The processor call of a worker is
taken to return. -/
def Action.serves : Action → Bool
  | .acquire _ => true
  | .finish _ throws => !throws
  | .notifyOne _ => true
  | .notifyAll => true
  | _ => false

/-- Something can be done by a worker or a notification. -/
def Serving (wakeups : WorkerWakeups) : Prop :=
  ∃ action, action.serves = true ∧ ∃ next event, wakeups.perform action = some (next, event)

/-- An owed `notify_one` can be called, whoever sleeps. -/
theorem serving_of_notifyOnes (owed : 0 < wakeups.notifyOnes) : wakeups.Serving := by
  rcases wakeups.asleep.eq_empty_or_nonempty with hnobody | ⟨worker, hmem⟩
  · exact ⟨.notifyOne none, rfl, _, _, if_pos ⟨owed, decide_eq_true hnobody⟩⟩
  · exact ⟨.notifyOne (some worker), rfl, _, _, if_pos ⟨owed, decide_eq_true hmem⟩⟩

/-- A worker in a processor call can finish it. -/
theorem serving_of_busy {worker : Nat} {packet : ReceivedPacket}
    (busy : wakeups.pipeline.workers[worker]? = some (.processing packet)) : wakeups.Serving := by
  refine ⟨.finish worker false, rfl, ?_⟩
  simp only [perform, lift, WorkerPipeline.perform, WorkerPipeline.finish, busy]
  exact ⟨_, _, rfl⟩

/-- A worker that is awake works, if its predicate holds. -/
theorem serving_of_awake {worker : Nat} (awake : wakeups.Awake worker)
    (predicate : wakeups.pipeline.queue ≠ [] ∨ wakeups.pipeline.stopRequested = true) :
    wakeups.Serving := by
  obtain ⟨hawake, state, hstate, hrunning⟩ := awake
  cases state with
  | exited => exact absurd rfl hrunning
  | processing packet => exact serving_of_busy hstate
  | waiting =>
    refine ⟨.acquire worker, rfl, ?_⟩
    simp only [perform, if_neg hawake, lift, WorkerPipeline.perform, WorkerPipeline.acquire, hstate]
    cases hqueue : wakeups.pipeline.queue with
    | cons packet queue => exact ⟨_, _, rfl⟩
    | nil =>
      have hrequested := predicate.resolve_left fun h => h hqueue
      rw [if_pos hrequested]
      exact ⟨_, _, rfl⟩

/-- **No accepted packet is stranded by a lost wake-up.** In every reachable state of every
interleaving: a packet in the queue has a notification on its way or a worker that is awake; once a
stop is requested its notification is on its way or nobody sleeps; and no worker returns while a
packet is queued. So while an accepted packet is unfinished, or a `stop` waits for a worker, a
worker or a notification can go on. -/
theorem no_lost_wakeup (config : WorkerPipelineConfig) (trace : List Event)
    (wakeups : WorkerWakeups) (run : (system config).Reaches trace wakeups) :
    let history := trace.filterMap Event.pipeline?
    (wakeups.pipeline.queue ≠ [] →
      0 < wakeups.notifyOnes ∨ ∃ worker, wakeups.Awake worker) ∧
    (wakeups.pipeline.stopRequested = true → wakeups.notifyAll = true ∨ wakeups.asleep = ∅) ∧
    ((∀ worker ∈ wakeups.pipeline.workers, worker = .exited → wakeups.pipeline.queue = []) ∧
      ∀ action next worker, wakeups.perform action = some (next, .pipeline (.exited worker)) →
        wakeups.pipeline.queue = []) ∧
    ((WorkerPipeline.acceptedPackets history : Multiset ReceivedPacket) ≠
        WorkerPipeline.returnedPackets history + WorkerPipeline.threwPackets history ∨
      wakeups.pipeline.lifecycle = .joining ∧
        (∃ worker ∈ wakeups.pipeline.workers, worker ≠ .exited) →
      wakeups.Serving) := by
  intro history
  have hwakeful := (reaches_wakeful run).2
  have hqueued (queued : wakeups.pipeline.queue ≠ []) : wakeups.Serving := by
    rcases hwakeful.queued queued with howed | ⟨worker, hawake⟩
    · exact serving_of_notifyOnes howed
    · exact serving_of_awake hawake (Or.inl queued)
  refine ⟨hwakeful.queued, hwakeful.stopping, ⟨?_, ?_⟩, ?_⟩
  · exact fun worker hmem hexited => (hwakeful.draining.drained worker hmem hexited).2
  · intro action next worker hperform
    cases transition_of_perform hperform with
    | moved step =>
      cases step with
      | exited _ _ drained => exact drained
  · rintro (hunfinished | ⟨hjoining, worker, hmem, hrunning⟩)
    · by_cases hqueue : wakeups.pipeline.queue = []
      · -- the unfinished packets are with the workers
        have hconserved := (WorkerPipeline.reaches_invariant (reaches_pipeline run)).1.conserved
        have hheld : wakeups.pipeline.heldPackets ≠ [] := by
          intro hnone
          rw [hqueue, hnone] at hconserved
          refine hunfinished (hconserved.trans ?_)
          rw [Multiset.coe_nil, zero_add, zero_add]
        obtain ⟨packet, hpacket⟩ := List.exists_mem_of_ne_nil _ hheld
        obtain ⟨worker, hmem, hholds⟩ := List.mem_filterMap.mp hpacket
        obtain ⟨index, hindex⟩ := List.mem_iff_getElem?.mp hmem
        cases worker with
        | processing other => exact serving_of_busy hindex
        | waiting | exited => cases hholds
      · exact hqueued hqueue
    · have hrequested := hwakeful.draining.joining hjoining
      rcases hwakeful.stopping hrequested with howed | hnobody
      · exact ⟨.notifyAll, rfl, _, _, if_pos howed⟩
      · obtain ⟨index, hindex⟩ := List.mem_iff_getElem?.mp hmem
        refine serving_of_awake ⟨?_, worker, hindex, hrunning⟩ (Or.inr hrequested)
        exact hnobody ▸ Finset.notMem_empty index

/-- The only worker falls asleep, a packet is accepted, and the notification wakes the worker; it
finds the packet. -/
theorem no_lost_wakeup_asleep :
    ∃ trace wakeups, (system { workerCount := 1 }).Reaches trace wakeups ∧
      wakeups.pipeline.queue ≠ [] ∧ wakeups.notifyOnes = 0 ∧
      (∃ worker, wakeups.Awake worker) ∧ wakeups.Serving := by
  have hstart : (system { workerCount := 1 }).Reaches []
      { pipeline := { config := { workerCount := 1 } } } := .start ⟨_, rfl, rfl⟩
  have hschedule : performAll perform
      { pipeline := { config := { workerCount := 1 } } }
        [.sleep 0, .trySubmit {}, .notifyOne (some 0)] =
      some ({ pipeline := { config := { workerCount := 1 }, queue := [{}]
                            metrics := { packetsSubmitted := 1, queueHighWatermark := 1 } } },
        [.slept 0, .pipeline (.submitted {} .kAccepted), .notifiedOne (some 0)]) := by
    decide +kernel
  have hrun := hstart.performAll (fun _ action _ _ h => ⟨action, h⟩) _ hschedule
  obtain ⟨hqueued, _, _, hserving⟩ := no_lost_wakeup _ _ _ hrun
  refine ⟨_, _, hrun, List.cons_ne_nil _ _, rfl, ?_, hserving (Or.inl (by decide))⟩
  exact (hqueued (List.cons_ne_nil _ _)).resolve_left (by decide)

end Progress

end WorkerWakeups

end Driveflow.Runtime

import Driveflow.Laws.Runtime.WakeUps
import Driveflow.Runtime.WorkerConstruction

/-!
# Joining the workers

`join_workers` waits until every worker has returned. Once a stop is requested nobody goes to sleep
any more, so what the workers and their notifications have left to do only shrinks (`remaining`),
whatever the callers of the pipeline do meanwhile, and as long as a worker has not returned one of
them can go on. The constructor that fails to start a worker joins those it has started in the same
way; one that succeeds leaves the state from which the pipeline runs.
-/

namespace Driveflow.Runtime

open Library

namespace WorkerWakeups

open WorkerPipeline (Worker)

/-! ## What is left to do -/

/-- The steps of a worker to its exit, if it finds nothing more in the queue. -/
def workerSteps : Worker → Nat
  | .waiting => 1
  | .processing _ => 2
  | .exited => 0

/-- The steps the workers and the notifications of submissions have left, once a stop is
requested. -/
def remaining (wakeups : WorkerWakeups) : Nat :=
  2 * wakeups.pipeline.queue.length + (wakeups.pipeline.workers.map workerSteps).sum +
    wakeups.asleep.card + wakeups.notifyOnes

/-- A step of a worker, or the notification of a submission. -/
def Event.works : Event → Bool
  | .pipeline (.took _ _) | .pipeline (.returned _ _) | .pipeline (.threw _ _)
  | .pipeline (.exited _) => true
  | .pipeline _ => false
  | .notifiedOne _ | .slept _ | .woke _ => true
  | .notifiedAll => false

section Steps

variable {wakeups next : WorkerWakeups} {event : Event}

private theorem workerSteps_set {worker : Nat} {old : Worker}
    (h : wakeups.pipeline.workers[worker]? = some old) (new : Worker) :
    ((wakeups.pipeline.workers.set worker new).map workerSteps).sum + workerSteps old =
      (wakeups.pipeline.workers.map workerSteps).sum + workerSteps new :=
  sum_map_set_add h workerSteps new

/-- **Once a stop is requested, it stays so and every step of a worker is one fewer to do.** -/
theorem remaining_add_le (requested : wakeups.pipeline.stopRequested = true)
    (closed : wakeups.pipeline.accepting = false) (step : Transition wakeups event next) :
    (next.pipeline.stopRequested = true ∧ next.pipeline.accepting = false) ∧
      next.remaining + (if event.works then 1 else 0) ≤ wakeups.remaining := by
  cases step with
  | accepted step =>
    cases step with
    | accepted packet opened room => exact absurd (closed.symm.trans opened) Bool.false_ne_true
  | stopRequested step =>
    cases step with
    | stopRequested locked => exact ⟨⟨rfl, rfl⟩, Nat.le_refl _⟩
  | moved step silent running =>
    cases step with
    | rejected packet closed' => exact ⟨⟨requested, closed⟩, Nat.le_refl _⟩
    | dropped packet opened full => exact ⟨⟨requested, closed⟩, Nat.le_refl _⟩
    | accepted packet opened room => exact absurd (closed.symm.trans opened) Bool.false_ne_true
    | stopRequested locked => exact absurd rfl silent.2
    | took worker packet rest idle front =>
      have hset := workerSteps_set idle (.processing packet)
      refine ⟨⟨requested, closed⟩, ?_⟩
      simp only [remaining, front, Event.works, workerSteps, List.length_cons, if_true] at hset ⊢
      omega
    | exited worker idle drained requested' =>
      have hset := workerSteps_set idle .exited
      refine ⟨⟨requested, closed⟩, ?_⟩
      simp only [remaining, Event.works, workerSteps, if_true] at hset ⊢
      omega
    | returned worker packet busy =>
      have hset := workerSteps_set busy .waiting
      refine ⟨⟨requested, closed⟩, ?_⟩
      simp only [remaining, Event.works, workerSteps, if_true] at hset ⊢
      omega
    | threw worker packet busy =>
      have hset := workerSteps_set busy .waiting
      refine ⟨⟨requested, closed⟩, ?_⟩
      simp only [remaining, Event.works, workerSteps, if_true] at hset ⊢
      omega
    | stopBegun free => exact ⟨⟨requested, closed⟩, Nat.le_refl _⟩
    | stopReturned joining joined => exact ⟨⟨requested, closed⟩, Nat.le_refl _⟩
  | @notifiedOne woken owed may =>
    have hfewer : (wakeups.asleep \ woken.toFinset).card ≤ wakeups.asleep.card :=
      Finset.card_le_card Finset.sdiff_subset
    refine ⟨⟨requested, closed⟩, ?_⟩
    simp only [remaining, Event.works, if_true]
    omega
  | notifiedAll owed =>
    refine ⟨⟨requested, closed⟩, ?_⟩
    simp only [remaining, Event.works, Finset.card_empty, Bool.false_eq_true, if_false]
    omega
  | slept idle drained open_ => exact absurd (open_.symm.trans requested) Bool.false_ne_true
  | woke sleeping =>
    have hcard := Finset.card_erase_add_one sleeping
    refine ⟨⟨requested, closed⟩, ?_⟩
    simp only [remaining, Event.works, if_true]
    omega

end Steps

/-! ## A stop comes to its end -/

section Stops

variable {config : WorkerPipelineConfig} {wakeups : WorkerWakeups} {trace : List Event}

/-- A worker that has not returned can go on, or a notification can, once a stop is requested. -/
theorem serving_of_running (wakeful : Wakeful config wakeups)
    (requested : wakeups.pipeline.stopRequested = true) {worker : Worker}
    (mem : worker ∈ wakeups.pipeline.workers) (running : worker ≠ .exited) : wakeups.Serving := by
  rcases wakeful.stopping requested with howed | hnobody
  · exact ⟨.notifyAll, rfl, _, _, if_pos howed⟩
  · obtain ⟨index, hindex⟩ := List.mem_iff_getElem?.mp mem
    refine serving_of_awake ⟨?_, worker, hindex, running⟩ (Or.inr requested)
    rw [hnobody]
    exact Finset.notMem_empty index

/-- **A requested stop comes to its end.** From every reachable state in which a stop is requested,
whatever the callers of the pipeline do from there: the workers and the notifications of submissions
take no more steps than `remaining` says, and when none of them can go on, every worker has
returned, so that the join does, and every accepted packet was processed. -/
theorem stop_joins (config : WorkerPipelineConfig) (trace : List Event) (wakeups : WorkerWakeups)
    (run : (system config).Reaches trace wakeups)
    (requested : wakeups.pipeline.stopRequested = true) (labels : List Event)
    (next : WorkerWakeups) (path : (system config).Path wakeups labels next) :
    labels.countP Event.works ≤ wakeups.remaining ∧
      (¬ next.Serving →
        (∀ worker ∈ next.pipeline.workers, worker = .exited) ∧ next.pipeline.queue = [] ∧
        (WorkerPipeline.acceptedPackets ((trace ++ labels).filterMap Event.pipeline?) :
            Multiset ReceivedPacket) =
          WorkerPipeline.returnedPackets ((trace ++ labels).filterMap Event.pipeline?) +
            WorkerPipeline.threwPackets ((trace ++ labels).filterMap Event.pipeline?)) := by
  have hclosed : wakeups.pipeline.accepting = false := by
    rw [(reaches_wakeful run).2.draining.accepting, requested]
    rfl
  obtain ⟨⟨hrequested, _⟩, hsum⟩ := path.countP_add_le
    (fun wakeups => wakeups.pipeline.stopRequested = true ∧ wakeups.pipeline.accepting = false)
    ⟨requested, hclosed⟩ remaining (fun _ => True) Event.works
    (fun wakeups event next h _ step => by
      obtain ⟨action, hperform⟩ := step
      exact remaining_add_le h.1 h.2 (transition_of_perform hperform)) fun _ _ => trivial
  refine ⟨by omega, fun hstuck => ?_⟩
  have hrun := run.append path
  obtain ⟨hworkers, hwakeful⟩ := reaches_wakeful hrun
  have hexited : ∀ worker ∈ next.pipeline.workers, worker = .exited := by
    intro worker hmem
    by_contra hrunning
    exact hstuck (serving_of_running hwakeful hrequested hmem hrunning)
  exact ⟨hexited, WorkerPipeline.processed_of_exited (reaches_pipeline hrun) hworkers hexited⟩

/-- The only worker sleeps, a packet is accepted and a stop requested before anybody was notified:
five steps are left, and a sixth is refused. -/
theorem stop_joins_asleep :
    ∃ wakeups, (∃ trace, (system { workerCount := 1 }).Reaches trace wakeups) ∧
      wakeups.pipeline.queue = [{}] ∧ wakeups.asleep = {0} ∧
      ∀ labels next, (system { workerCount := 1 }).Path wakeups labels next →
        labels.countP Event.works ≤ 5 := by
  have hstart : (system { workerCount := 1 }).Reaches []
      { pipeline := { config := { workerCount := 1 } } } := .start ⟨_, rfl, rfl⟩
  have hschedule : performAll perform { pipeline := { config := { workerCount := 1 } } }
      [.sleep 0, .trySubmit {}, .lockLifecycle, .requestStop] =
      some ({ pipeline := { config := { workerCount := 1 }, queue := [{}], accepting := false
                            stopRequested := true, lifecycle := .joining
                            metrics := { packetsSubmitted := 1, queueHighWatermark := 1 } }
              asleep := {0}, notifyOnes := 1, notifyAll := true },
        [.slept 0, .pipeline (.submitted {} .kAccepted), .pipeline .stopBegun,
          .pipeline .stopRequested]) := by
    decide +kernel
  have hrun := hstart.performAll (fun _ action _ _ h => ⟨action, h⟩) _ hschedule
  refine ⟨_, ⟨_, hrun⟩, rfl, rfl, fun labels next path => ?_⟩
  exact (stop_joins _ _ _ hrun rfl labels next path).1

end Stops

end WorkerWakeups

namespace WorkerConstruction

open WorkerPipeline (Worker)

/-! ## The constructor -/

/-- So many workers were started, and the others run as the pipeline would let them: they wait. -/
structure Starting (config : WorkerPipelineConfig) (count : Nat) (wakeups : WorkerWakeups) :
    Prop where
  pipeline : wakeups.pipeline = { config, workers := List.replicate count .waiting }
  notifyOnes : wakeups.notifyOnes = 0
  notifyAll : wakeups.notifyAll = false
  asleep : ∀ worker ∈ wakeups.asleep, worker < count
  reaches : ∃ history, (WorkerWakeups.system config).Reaches history
    { pipeline := { config }, asleep := wakeups.asleep }

/-- A stop was requested of the workers that were started. -/
structure Leaving (config : WorkerPipelineConfig) (wakeups : WorkerWakeups) : Prop where
  requested : wakeups.pipeline.stopRequested = true
  drained : wakeups.pipeline.queue = []
  count : wakeups.pipeline.workers.length ≤ config.workerCount
  idle : ∀ worker ∈ wakeups.pipeline.workers, worker = .waiting ∨ worker = .exited
  sleeping : ∀ worker ∈ wakeups.asleep, wakeups.pipeline.workers[worker]? = some .waiting
  woken : wakeups.notifyAll = true ∨ wakeups.asleep = ∅
  notifyOnes : wakeups.notifyOnes = 0

/-- Nobody runs. -/
structure Left (wakeups : WorkerWakeups) : Prop where
  exited : ∀ worker ∈ wakeups.pipeline.workers, worker = .exited
  asleep : wakeups.asleep = ∅
  notifyAll : wakeups.notifyAll = false

/-- What holds at each place of the constructor. -/
def Sound (config : WorkerPipelineConfig) (construction : WorkerConstruction) : Prop :=
  match construction.stage with
  | .reserving => Starting config 0 construction.wakeups
  | .starting | .failed => ∃ count ≤ config.workerCount, Starting config count construction.wakeups
  | .built => Starting config config.workerCount construction.wakeups
  | .joining => Leaving config construction.wakeups
  | .threw => Left construction.wakeups

section Steps

variable {config : WorkerPipelineConfig} {wakeups : WorkerWakeups}
  {construction next : WorkerConstruction} {event : Event}

/-- A lifted action is an action of the workers that are there. -/
theorem lift_eq_some {action : WorkerWakeups.Action}
    (h : construction.lift action = some (next, event)) :
    ∃ wakeups inner, construction.wakeups.perform action = some (wakeups, inner) ∧
      next = { construction with wakeups } ∧ event = .wakeups inner := by
  obtain ⟨⟨wakeups, inner⟩, hperform, heq⟩ := Option.map_eq_some_iff.mp h
  cases heq
  exact ⟨wakeups, inner, hperform, rfl, rfl⟩

/-- The steps of the workers and of the notification, which `request_stop` owes. -/
def free : WorkerWakeups.Action → Bool
  | .sleep _ | .wake _ | .acquire _ | .notifyAll => true
  | _ => false

/-- A started worker that sleeps or wakes up does what it would do in the finished pipeline. -/
theorem Starting.perform {count : Nat} (h : Starting config count wakeups)
    (le : count ≤ config.workerCount) {action : WorkerWakeups.Action} (free : free action = true)
    {next : WorkerWakeups} {event : WorkerWakeups.Event}
    (step : wakeups.perform action = some (next, event)) : Starting config count next := by
  obtain ⟨pipeline, asleep, notifyOnes, notifyAll⟩ := wakeups
  obtain ⟨hpipeline, hones, hall, hasleep, history, hreaches⟩ := h
  dsimp only at hpipeline hones hall hasleep hreaches
  subst hpipeline hones hall
  cases action with
  | sleep worker =>
    simp only [WorkerWakeups.perform] at step
    split at step
    next hguard =>
      cases step
      obtain ⟨hidle, hawake, _⟩ := hguard
      have hlt : worker < count := by
        have hlength := (List.getElem?_eq_some_iff.mp hidle).1
        rwa [List.length_replicate] at hlength
      refine ⟨rfl, rfl, rfl, ?_, history ++ [.slept worker], ?_⟩
      · intro other hmem
        rcases Finset.mem_insert.mp hmem with rfl | hmem
        · exact hlt
        · exact hasleep other hmem
      · have hthere : (List.replicate config.workerCount Worker.waiting)[worker]? = some .waiting :=
          List.getElem?_replicate_of_lt (Nat.lt_of_lt_of_le hlt le)
        exact hreaches.next ⟨.sleep worker, if_pos ⟨hthere, hawake, rfl, rfl⟩⟩
    next => cases step
  | wake worker =>
    simp only [WorkerWakeups.perform] at step
    split at step
    next hsleeping =>
      cases step
      refine ⟨rfl, rfl, rfl, ?_, history ++ [.woke worker], ?_⟩
      · exact fun other hmem => hasleep other (Finset.mem_of_mem_erase hmem)
      · exact hreaches.next ⟨.wake worker, if_pos hsleeping⟩
    next => cases step
  | acquire worker =>
    -- nothing is queued and no stop requested
    simp only [WorkerWakeups.perform] at step
    split at step
    · cases step
    · obtain ⟨pipeline, inner, hperform, _⟩ := WorkerWakeups.lift_eq_some step
      simp only [WorkerPipeline.perform, WorkerPipeline.acquire] at hperform
      split at hperform <;> cases hperform
  | notifyAll => cases step
  | _ => cases free

/-- A worker that was told to leave wakes up or leaves. -/
theorem Leaving.perform (h : Leaving config wakeups) {action : WorkerWakeups.Action}
    (free : free action = true) {next : WorkerWakeups} {event : WorkerWakeups.Event}
    (step : wakeups.perform action = some (next, event)) :
    Leaving config next ∧ next.remaining + (if next.notifyAll then 1 else 0) <
      wakeups.remaining + if wakeups.notifyAll then 1 else 0 := by
  cases action with
  | sleep worker =>
    simp only [WorkerWakeups.perform] at step
    split at step
    next hguard => exact absurd (hguard.2.2.2.symm.trans h.requested) Bool.false_ne_true
    next => cases step
  | wake worker =>
    simp only [WorkerWakeups.perform] at step
    split at step
    next hsleeping =>
      cases step
      have hcard := Finset.card_erase_add_one hsleeping
      refine ⟨⟨h.requested, h.drained, h.count, h.idle, ?_, ?_, h.notifyOnes⟩, ?_⟩
      · exact fun other hmem => h.sleeping other (Finset.mem_of_mem_erase hmem)
      · refine h.woken.imp_right fun hnobody => ?_
        rw [hnobody] at hsleeping
        exact absurd hsleeping (Finset.notMem_empty worker)
      · simp only [WorkerWakeups.remaining]
        omega
    next => cases step
  | acquire worker =>
    simp only [WorkerWakeups.perform] at step
    split at step
    next => cases step
    next hawake =>
      obtain ⟨pipeline, inner, hperform, rfl, _⟩ := WorkerWakeups.lift_eq_some step
      simp only [WorkerPipeline.perform, WorkerPipeline.acquire, h.drained, h.requested, if_true]
        at hperform
      split at hperform
      next hidle =>
        cases hperform
        have hset := sum_map_set_add hidle WorkerWakeups.workerSteps .exited
        refine ⟨⟨rfl, rfl, List.length_set.trans_le h.count, ?_, ?_, h.woken, h.notifyOnes⟩, ?_⟩
        · intro other hmem
          rcases List.mem_or_eq_of_mem_set hmem with hold | hnew
          · exact h.idle other hold
          · exact Or.inr hnew
        · intro other hmem
          have hne : worker ≠ other := fun heq => hawake (heq ▸ hmem)
          rw [List.getElem?_set_ne hne]
          exact h.sleeping other hmem
        · simp only [WorkerWakeups.remaining, WorkerWakeups.workerSteps, h.drained] at hset ⊢
          omega
      next => cases hperform
  | notifyAll =>
    simp only [WorkerWakeups.perform] at step
    split at step
    next howed =>
      cases step
      refine ⟨⟨h.requested, h.drained, h.count, h.idle, ?_, Or.inr rfl, h.notifyOnes⟩, ?_⟩
      · exact fun other hmem => absurd hmem (Finset.notMem_empty other)
      · simp only [WorkerWakeups.remaining, howed, Finset.card_empty, if_true,
          Bool.false_eq_true, if_false]
        omega
    next => cases step
  | _ => cases free

/-- What the constructor has left to do, once it has requested the stop. -/
def left (construction : WorkerConstruction) : Nat :=
  match construction.stage with
  | .joining =>
    construction.wakeups.remaining + (if construction.wakeups.notifyAll then 1 else 0) + 1
  | _ => 0

/-- Nobody moves any more. -/
theorem Left.perform (h : Left wakeups) {action : WorkerWakeups.Action}
    (free : free action = true) : wakeups.perform action = none := by
  have hexited (worker : Nat) : wakeups.pipeline.workers[worker]? ≠ some .waiting := by
    intro hidle
    cases h.exited _ (List.mem_of_getElem? hidle)
  cases action with
  | sleep worker => exact if_neg fun hguard => hexited worker hguard.1
  | wake worker =>
    refine if_neg ?_
    rw [h.asleep]
    exact Finset.notMem_empty worker
  | acquire worker =>
    have hnone : wakeups.pipeline.perform (.acquire worker) = none := by
      simp only [WorkerPipeline.perform, WorkerPipeline.acquire]
      split
      next hidle => exact absurd hidle (hexited worker)
      next => rfl
    simp only [WorkerWakeups.perform, WorkerWakeups.lift, hnone, Option.map_none, ite_self]
  | notifyAll =>
    simp only [WorkerWakeups.perform, h.notifyAll, Bool.false_eq_true, if_false]
  | _ => cases free

/-- **Every step keeps to the place of the constructor**, and once the stop is requested there is
less to do after it. -/
theorem Sound.step (h : Sound config construction) {action : Action}
    (step : construction.perform action = some (next, event)) :
    Sound config next ∧
      (construction.stage = .joining → next.left < construction.left) := by
  have hlifted {inner : WorkerWakeups.Action} (hfree : free inner = true)
      (step : construction.lift inner = some (next, event)) : Sound config next ∧
        (construction.stage = .joining → next.left < construction.left) := by
    obtain ⟨wakeups, event, hperform, rfl, _⟩ := lift_eq_some step
    unfold Sound at h ⊢
    dsimp only at h ⊢
    cases hstage : construction.stage with
    | reserving =>
      rw [hstage] at h
      exact ⟨Starting.perform h (Nat.zero_le _) hfree hperform, fun h => by cases h⟩
    | starting =>
      rw [hstage] at h
      obtain ⟨count, hle, hstarting⟩ := h
      exact ⟨⟨count, hle, hstarting.perform hle hfree hperform⟩, fun h => by cases h⟩
    | failed =>
      rw [hstage] at h
      obtain ⟨count, hle, hstarting⟩ := h
      exact ⟨⟨count, hle, hstarting.perform hle hfree hperform⟩, fun h => by cases h⟩
    | built =>
      rw [hstage] at h
      exact ⟨Starting.perform h (Nat.le_refl _) hfree hperform, fun h => by cases h⟩
    | joining =>
      rw [hstage] at h
      obtain ⟨hleaving, hless⟩ := Leaving.perform h hfree hperform
      refine ⟨hleaving, fun _ => ?_⟩
      simp only [left, hstage]
      omega
    | threw =>
      rw [hstage] at h
      rw [Left.perform h hfree] at hperform
      cases hperform
  cases action with
  | reserve throws =>
    simp only [perform] at step
    split at step
    next hstage =>
      simp only [Sound, hstage] at h
      have hnone : construction.wakeups.asleep = ∅ :=
        Finset.eq_empty_of_forall_notMem fun worker hmem => by
          exact absurd (h.asleep worker hmem) (Nat.not_lt_zero worker)
      split at step
      · cases step
        refine ⟨⟨?_, hnone, h.notifyAll⟩, fun hjoining => ?_⟩
        · intro worker hmem
          simp only [h.pipeline, List.replicate_zero, List.not_mem_nil] at hmem
        · cases hstage.symm.trans hjoining
      · cases step
        refine ⟨⟨0, Nat.zero_le _, h⟩, fun hjoining => ?_⟩
        cases hstage.symm.trans hjoining
    next => cases step
  | startWorker throws =>
    simp only [perform] at step
    split at step
    next hguard =>
      obtain ⟨hstage, hlt⟩ := hguard
      simp only [Sound, hstage] at h
      obtain ⟨count, hle, hstarting⟩ := h
      split at step
      · cases step
        refine ⟨⟨count, hle, hstarting⟩, fun hjoining => ?_⟩
        cases hstage.symm.trans hjoining
      · cases step
        simp only [hstarting.pipeline, List.length_replicate] at hlt
        refine ⟨?_, fun hjoining => ?_⟩
        · simp only [Sound, startWorker, hstage]
          refine ⟨count + 1, hlt, ?_, hstarting.notifyOnes, hstarting.notifyAll, ?_,
            hstarting.reaches⟩
          · simp only [hstarting.pipeline, List.replicate_succ']
          · exact fun worker hmem => Nat.lt_succ_of_lt (hstarting.asleep worker hmem)
        · cases hstage.symm.trans hjoining
    next => cases step
  | finish =>
    simp only [perform] at step
    split at step
    next hguard =>
      obtain ⟨hstage, hall⟩ := hguard
      simp only [Sound, hstage] at h
      obtain ⟨count, hle, hstarting⟩ := h
      cases step
      simp only [hstarting.pipeline, List.length_replicate] at hall
      refine ⟨?_, fun hjoining => ?_⟩
      · rw [hall] at hstarting
        exact hstarting
      · cases hstage.symm.trans hjoining
    next => cases step
  | requestStop =>
    simp only [perform] at step
    split at step
    next hstage =>
      simp only [Sound, hstage] at h
      obtain ⟨count, hle, hstarting⟩ := h
      cases step
      refine ⟨?_, fun hjoining => ?_⟩
      · refine ⟨rfl, ?_, ?_, ?_, ?_, Or.inl rfl, hstarting.notifyOnes⟩
        · simp only [WorkerPipeline.requestStop, hstarting.pipeline]
        · simp only [WorkerPipeline.requestStop, hstarting.pipeline, List.length_replicate]
          exact hle
        · intro worker hmem
          simp only [WorkerPipeline.requestStop, hstarting.pipeline] at hmem
          exact Or.inl (List.eq_of_mem_replicate hmem)
        · intro worker hmem
          simp only [WorkerPipeline.requestStop, hstarting.pipeline]
          exact List.getElem?_replicate_of_lt (hstarting.asleep worker hmem)
      · cases hstage.symm.trans hjoining
    next => cases step
  | rethrow =>
    simp only [perform] at step
    split at step
    next hguard =>
      obtain ⟨hstage, hquiet, hexited⟩ := hguard
      simp only [Sound, hstage] at h
      cases step
      refine ⟨⟨?_, ?_, hquiet⟩, fun _ => ?_⟩
      · intro worker hmem
        exact of_decide_eq_true (List.all_eq_true.mp hexited worker hmem)
      · refine h.woken.resolve_left fun howed => ?_
        exact Bool.false_ne_true (hquiet.symm.trans howed)
      · simp only [left, hstage]
        omega
    next => cases step
  | notifyAll => exact hlifted rfl step
  | sleep worker => exact hlifted rfl step
  | wake worker => exact hlifted rfl step
  | acquire worker => exact hlifted rfl step

end Steps

/-! ## The theorem -/

section Construction

variable {config : WorkerPipelineConfig} {trace : List Event} {construction : WorkerConstruction}

/-- So it holds in every run. -/
theorem reaches_sound (run : (system config).Reaches trace construction) :
    Sound config construction := by
  refine run.invariant (fun _ construction => Sound config construction) ?_ ?_
  · rintro _ ⟨pipeline, hmake, rfl⟩
    have hstart : (WorkerWakeups.system config).initial { pipeline } := ⟨pipeline, hmake, rfl⟩
    obtain ⟨_, _, rfl⟩ := WorkerPipeline.make_eq_ok hmake
    refine ⟨rfl, rfl, rfl, ?_, [], .start hstart⟩
    exact fun worker hmem => absurd hmem (Finset.notMem_empty worker)
  · rintro trace construction event next _ hsound ⟨action, hperform⟩
    exact (hsound.step hperform).1

/-- The constructor is not stuck before it has thrown or is done. -/
theorem exists_step (sound : Sound config construction) (threw : construction.stage ≠ .threw)
    (built : construction.stage ≠ .built) :
    ∃ action result, construction.perform action = some result := by
  cases hstage : construction.stage with
  | reserving =>
    refine ⟨.reserve true, ?_⟩
    simp only [perform, hstage, if_true]
    exact ⟨_, rfl⟩
  | starting =>
    simp only [Sound, hstage] at sound
    obtain ⟨count, hle, hstarting⟩ := sound
    rcases Nat.lt_or_eq_of_le hle with hlt | heq
    · refine ⟨.startWorker true, ?_⟩
      simp only [perform, hstage, hstarting.pipeline, List.length_replicate, hlt, and_self, if_true]
      exact ⟨_, rfl⟩
    · refine ⟨.finish, ?_⟩
      simp only [perform, hstage, hstarting.pipeline, List.length_replicate, heq, and_self, if_true]
      exact ⟨_, rfl⟩
  | failed =>
    refine ⟨.requestStop, ?_⟩
    simp only [perform, hstage, if_true]
    exact ⟨_, rfl⟩
  | joining =>
    simp only [Sound, hstage] at sound
    cases hall : construction.wakeups.notifyAll with
    | true =>
      refine ⟨.notifyAll, ?_⟩
      simp only [perform, lift, WorkerWakeups.perform, hall, if_true, Option.map_some]
      exact ⟨_, rfl⟩
    | false =>
      by_cases hexited : construction.wakeups.pipeline.workers.all (· = .exited) = true
      · refine ⟨.rethrow, ?_⟩
        simp only [perform, hstage, hall, hexited, and_self, if_true]
        exact ⟨_, rfl⟩
      · -- the join waits for a worker, which is awake
        have hnobody := sound.woken.resolve_left fun howed =>
          Bool.false_ne_true (hall.symm.trans howed)
        simp only [List.all_eq_true, decide_eq_true_eq, not_forall] at hexited
        obtain ⟨worker, hmem, hrunning⟩ := hexited
        obtain ⟨index, hindex⟩ := List.mem_iff_getElem?.mp hmem
        rw [(sound.idle worker hmem).resolve_right hrunning] at hindex
        have hawake : index ∉ construction.wakeups.asleep := by
          rw [hnobody]
          exact Finset.notMem_empty index
        refine ⟨.acquire index, ?_⟩
        simp only [perform, lift, WorkerWakeups.perform, if_neg hawake, WorkerWakeups.lift,
          WorkerPipeline.perform, WorkerPipeline.acquire, hindex, sound.drained, sound.requested,
          if_true, Option.map_some]
        exact ⟨_, rfl⟩
  | threw => exact absurd hstage threw
  | built => exact absurd hstage built

/-- After the constructor has thrown, nobody can take a step. -/
theorem Left.stuck (h : Left construction.wakeups) (threw : construction.stage = .threw)
    (action : Action) : construction.perform action = none := by
  have hlift {inner : WorkerWakeups.Action} (hfree : free inner = true) :
      construction.lift inner = none := by
    simp only [lift, h.perform hfree, Option.map_none]
  cases action with
  | notifyAll => exact hlift rfl
  | sleep worker => exact hlift rfl
  | wake worker => exact hlift rfl
  | acquire worker => exact hlift rfl
  | _ => simp only [WorkerConstruction.perform, threw, reduceCtorEq, false_and, if_false]

/-- A constructor that joins goes on joining, or throws. -/
theorem stage_of_joining {next : WorkerConstruction} {event : Event} {action : Action}
    (joining : construction.stage = .joining)
    (step : construction.perform action = some (next, event)) :
    next.stage = .joining ∨ next.stage = .threw := by
  have hlifted {inner : WorkerWakeups.Action}
      (step : construction.lift inner = some (next, event)) :
      next.stage = .joining ∨ next.stage = .threw := by
    obtain ⟨_, _, _, rfl, _⟩ := lift_eq_some step
    exact Or.inl joining
  cases action with
  | notifyAll => exact hlifted step
  | sleep worker => exact hlifted step
  | wake worker => exact hlifted step
  | acquire worker => exact hlifted step
  | rethrow =>
    simp only [perform] at step
    split at step
    · cases step
      exact Or.inr rfl
    · cases step
  | _ => simp only [perform, joining, reduceCtorEq, false_and, if_false] at step

/-- What a constructor that joins has left to do. -/
theorem left_le (leaving : Leaving config construction.wakeups) :
    construction.left ≤ 2 * config.workerCount + 2 := by
  have hcount := leaving.count
  have hsteps : (construction.wakeups.pipeline.workers.map WorkerWakeups.workerSteps).sum ≤
      construction.wakeups.pipeline.workers.length := by
    refine (List.sum_le_card_nsmul _ 1 ?_).trans_eq ?_
    · intro steps hsteps
      obtain ⟨worker, hmem, rfl⟩ := List.mem_map.mp hsteps
      rcases leaving.idle worker hmem with rfl | rfl
      · exact Nat.le_refl 1
      · exact Nat.zero_le 1
    · rw [List.length_map, smul_eq_mul, Nat.mul_one]
  have hasleep : construction.wakeups.asleep.card ≤
      construction.wakeups.pipeline.workers.length := by
    have hsubset : construction.wakeups.asleep ⊆
        Finset.range construction.wakeups.pipeline.workers.length := by
      intro worker hmem
      have hlt := (List.getElem?_eq_some_iff.mp (leaving.sleeping worker hmem)).1
      exact Finset.mem_range.mpr hlt
    exact (Finset.card_le_card hsubset).trans_eq (Finset.card_range _)
  have hflag : (if construction.wakeups.notifyAll then 1 else 0) ≤ 1 := by
    split <;> decide
  unfold left
  split
  · simp only [WorkerWakeups.remaining, leaving.drained, leaving.notifyOnes, List.length_nil]
    omega
  · exact Nat.zero_le _

/-- **A constructor that throws leaves no thread behind, and one that does not leaves the pipeline.**
Under every schedule of the constructor and the workers it has started: when it has thrown, every
worker it started has returned and been joined, and nobody can take a step; when it is done, the
pipeline is in a state that it reaches by itself, with no packet in it. It is never stuck in
between, and once it has requested the stop so many steps end it. -/
theorem construction_joins (config : WorkerPipelineConfig) (trace : List Event)
    (construction : WorkerConstruction) (run : (system config).Reaches trace construction) :
    (construction.stage = .threw →
      (∀ worker ∈ construction.wakeups.pipeline.workers, worker = .exited) ∧
        ∀ action, construction.perform action = none) ∧
    (construction.stage = .built →
      construction.wakeups.pipeline = { config } ∧
        ∃ history, (WorkerWakeups.system config).Reaches history construction.wakeups) ∧
    (construction.stage ≠ .threw → construction.stage ≠ .built →
      ∃ action result, construction.perform action = some result) ∧
    (construction.stage = .joining → ∀ labels next,
      (system config).Path construction labels next →
        labels.length ≤ 2 * config.workerCount + 2) := by
  have hsound := reaches_sound run
  refine ⟨fun hthrew => ?_, fun hbuilt => ?_, exists_step hsound, ?_⟩
  · simp only [Sound, hthrew] at hsound
    exact ⟨hsound.exited, hsound.stuck hthrew⟩
  · simp only [Sound, hbuilt] at hsound
    obtain ⟨⟨pipeline, asleep, notifyOnes, notifyAll⟩, stage⟩ := construction
    obtain ⟨hpipeline, hones, hall, _, hreaches⟩ := hsound
    dsimp only at hpipeline hones hall hreaches
    subst hpipeline hones hall
    exact ⟨rfl, hreaches⟩
  · intro hjoining labels next path
    have huses (construction : WorkerConstruction) (event : Event) (next : WorkerConstruction)
        (h : Sound config construction ∧
          (construction.stage = .joining ∨ construction.stage = .threw))
        (step : (system config).step construction event next) :
        (Sound config next ∧ (next.stage = .joining ∨ next.stage = .threw)) ∧
          next.left < construction.left := by
      obtain ⟨action, hperform⟩ := step
      obtain ⟨hsound, hjoining | hthrew⟩ := h
      · obtain ⟨hnext, hless⟩ := hsound.step hperform
        exact ⟨⟨hnext, stage_of_joining hjoining hperform⟩, hless hjoining⟩
      · simp only [Sound, hthrew] at hsound
        rw [hsound.stuck hthrew action] at hperform
        cases hperform
    obtain ⟨_, hsum⟩ := path.countP_add_le _ ⟨hsound, Or.inl hjoining⟩ left (fun _ => True)
      (fun _ => true) (fun construction event next h _ => huses construction event next h)
      fun _ _ => trivial
    simp only [Sound, hjoining] at hsound
    have hbound := left_le hsound
    rw [List.countP_true] at hsum
    omega

/-- The second of three workers cannot be started while the first one sleeps. -/
theorem construction_joins_failure :
    ∃ construction : WorkerConstruction,
      (∃ trace, (system { workerCount := 3 }).Reaches trace construction) ∧
      construction.stage = .threw ∧ construction.wakeups.pipeline.workers = [.exited] ∧
      ∀ action, construction.perform action = none := by
  have hstart : (system { workerCount := 3 }).Reaches []
      { wakeups := { pipeline := { config := { workerCount := 3 }, workers := [] } } } :=
    .start ⟨_, rfl, rfl⟩
  have hschedule : performAll perform
      { wakeups := { pipeline := { config := { workerCount := 3 }, workers := [] } } }
      [.reserve false, .startWorker false, .sleep 0, .startWorker true, .requestStop, .notifyAll,
        .acquire 0, .rethrow] =
      some ({ wakeups := { pipeline := { config := { workerCount := 3 }, workers := [.exited]
                                         accepting := false, stopRequested := true } }
              stage := .threw },
        [.reserved, .started 0, .wakeups (.slept 0), .startFailed, .stopRequested,
          .wakeups .notifiedAll, .wakeups (.pipeline (.exited 0)), .threw]) := by
    decide +kernel
  have hrun := hstart.performAll (fun _ action _ _ h => ⟨action, h⟩) _ hschedule
  exact ⟨_, ⟨_, hrun⟩, rfl, rfl, ((construction_joins _ _ _ hrun).1 rfl).2⟩

end Construction

end WorkerConstruction

end Driveflow.Runtime

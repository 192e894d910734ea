import Driveflow.Laws.Runtime.ExactlyOnce

/-!
# The bounded queue and its order

What `try_submit` answers, in every interleaving, and what the queue does with what it accepts. The
queue never exceeds its capacity and the high watermark is the longest it has been. Packets are
taken in the order in which they were accepted (`acceptedPackets_eq`), and a single worker finishes
them in that order too, since it never holds two (`tookPackets_eq`).
-/

namespace Driveflow.Runtime

open Library

/-- The counter of a result of `try_submit`. -/
def WorkerPipelineMetrics.resultCounter (metrics : WorkerPipelineMetrics) :
    SubmitResult → BitVec 64
  | .kAccepted => metrics.packetsSubmitted
  | .kQueueFull => metrics.packetsDroppedQueueFull
  | .kStopped => metrics.packetsRejectedStopped

namespace WorkerPipeline

/-! ## One submission -/

section TrySubmit

variable (pipeline : WorkerPipeline) (packet : ReceivedPacket)

/-- The three ways a submission can go. -/
theorem trySubmit_cases :
    (pipeline.accepting = false ∧ (pipeline.trySubmit packet).2 = (.kStopped, some packet)) ∨
    (pipeline.accepting = true ∧ pipeline.config.queueCapacity ≤ pipeline.queue.length ∧
      (pipeline.trySubmit packet).2 = (.kQueueFull, some packet)) ∨
    (pipeline.accepting = true ∧ pipeline.queue.length < pipeline.config.queueCapacity ∧
      (pipeline.trySubmit packet).2 = (.kAccepted, none)) := by
  unfold trySubmit
  cases haccepting : pipeline.accepting with
  | false => exact .inl ⟨rfl, rfl⟩
  | true =>
    dsimp only
    rw [Bool.not_true, if_neg Bool.false_ne_true]
    by_cases hfull : pipeline.queue.length ≥ pipeline.config.queueCapacity
    · exact .inr (.inl ⟨rfl, hfull, by rw [if_pos hfull]⟩)
    · exact .inr (.inr ⟨rfl, Nat.lt_of_not_le hfull, by rw [if_neg hfull]⟩)

/-- **Exactly the counter of the result goes up.** -/
theorem resultCounter_trySubmit (result : SubmitResult) :
    (pipeline.trySubmit packet).1.metrics.resultCounter result =
      pipeline.metrics.resultCounter result +
        if (pipeline.trySubmit packet).2.1 = result then 1 else 0 := by
  unfold trySubmit
  dsimp only
  split
  · cases result with
    | kStopped => rfl
    | _ => exact (BitVec.add_zero _).symm
  · split
    · cases result with
      | kQueueFull => rfl
      | _ => exact (BitVec.add_zero _).symm
    · cases result with
      | kAccepted => rfl
      | _ => exact (BitVec.add_zero _).symm

/-- **A packet that is not accepted stays with its caller**, and nothing but a counter changes. -/
theorem trySubmit_refused (refused : (pipeline.trySubmit packet).2.1 ≠ .kAccepted) :
    (pipeline.trySubmit packet).1.queue = pipeline.queue ∧
      (pipeline.trySubmit packet).1.workers = pipeline.workers ∧
      (pipeline.trySubmit packet).2.2 = some packet := by
  unfold trySubmit at refused ⊢
  dsimp only at refused ⊢
  split
  · exact ⟨rfl, rfl, rfl⟩
  next hopen =>
    rw [if_neg hopen] at refused
    split
    · exact ⟨rfl, rfl, rfl⟩
    next hroom =>
      rw [if_neg hroom] at refused
      exact absurd rfl refused

end TrySubmit

/-! ## The queue over a run -/

section Runs

variable {config : WorkerPipelineConfig} {trace : List Event} {pipeline : WorkerPipeline}

/-- A step accepts a packet into a free place, or leaves the queue no longer than it was. -/
theorem Transition.queue_cases {next : WorkerPipeline} {event : Event}
    (step : Transition pipeline event next) :
    (next.queue.length = pipeline.queue.length + 1 ∧
      pipeline.queue.length < pipeline.config.queueCapacity ∧
      next.metrics.queueHighWatermark =
        max pipeline.metrics.queueHighWatermark next.queue.length) ∨
    (next.queue.length ≤ pipeline.queue.length ∧
      next.metrics.queueHighWatermark = pipeline.metrics.queueHighWatermark) := by
  cases step with
  | accepted packet opened room => exact .inl ⟨List.length_append, room, rfl⟩
  | took worker packet rest idle front =>
    refine .inr ⟨?_, rfl⟩
    rw [front]
    exact Nat.le_succ _
  | _ => exact .inr ⟨Nat.le_refl _, rfl⟩

/-- **The queue never exceeds its capacity.** -/
theorem queue_bounded (run : (system config).Reaches trace pipeline) :
    pipeline.queue.length ≤ config.queueCapacity := by
  refine run.invariant (fun _ pipeline => pipeline.queue.length ≤ config.queueCapacity) ?_ ?_
  · intro pipeline hinitial
    obtain ⟨_, _, rfl⟩ := make_eq_ok hinitial
    exact Nat.zero_le _
  · rintro trace pipeline event next hrun hbound ⟨action, hperform⟩
    have hconfig := (reaches_invariant hrun).2.config_eq
    rcases (transition_of_perform hperform).queue_cases with ⟨hlength, hroom, _⟩ | ⟨hlength, _⟩
    · rw [hlength, ← hconfig]
      exact hroom
    · exact hlength.trans hbound

/-- **The high watermark is the longest the queue has been.** -/
theorem highWatermark_isGreatest {states : List WorkerPipeline}
    (run : (system config).Visits states trace pipeline) :
    IsGreatest {waiting | ∃ state ∈ states, state.queue.length = waiting}
      pipeline.metrics.queueHighWatermark := by
  refine run.isGreatest (fun pipeline => pipeline.queue.length)
    (fun pipeline => pipeline.metrics.queueHighWatermark) ?_ ?_
  · intro pipeline hinitial
    obtain ⟨_, _, rfl⟩ := make_eq_ok hinitial
    rfl
  · rintro pipeline event next ⟨action, hperform⟩ hbound
    rcases (transition_of_perform hperform).queue_cases with ⟨_, _, hmark⟩ | ⟨hlength, hmark⟩
    · exact hmark
    · rw [hmark, max_eq_left (hlength.trans hbound)]

/-- The pipeline is closed once a stop has been requested. -/
theorem closed_iff (run : (system config).Reaches trace pipeline) :
    pipeline.accepting = false ↔ Event.stopRequested ∈ trace := by
  refine run.invariant (fun trace pipeline =>
    pipeline.accepting = false ↔ Event.stopRequested ∈ trace) ?_ ?_
  · intro pipeline hinitial
    obtain ⟨_, _, rfl⟩ := make_eq_ok hinitial
    exact ⟨nofun, nofun⟩
  · rintro trace pipeline event next _ hiff ⟨action, hperform⟩
    have hstep := transition_of_perform hperform
    rw [List.mem_append, List.mem_singleton]
    by_cases hstop : event = .stopRequested
    · subst hstop
      cases hstep with
      | stopRequested => exact ⟨fun _ => .inr rfl, fun _ => rfl⟩
    · rw [hstep.accepting_eq hstop, hiff]
      exact ⟨.inl, fun h => h.resolve_right fun heq => hstop heq.symm⟩

/-- The packets submitted with success are the accepted ones. -/
theorem submittedPackets_kAccepted (trace : List Event) :
    submittedPackets .kAccepted trace = acceptedPackets trace := by
  refine List.filterMap_congr fun event _ => ?_
  cases event with
  | submitted packet result => cases result <;> rfl
  | _ => rfl

/-- **Each result counter counts the submissions with that result.** -/
theorem resultCounter_eq (run : (system config).Reaches trace pipeline) (result : SubmitResult) :
    pipeline.metrics.resultCounter result =
      BitVec.ofNat 64 (submittedPackets result trace).length := by
  have haccounted := (reaches_invariant run).1
  cases result with
  | kAccepted =>
    rw [submittedPackets_kAccepted]
    exact haccounted.submitted
  | kQueueFull => exact haccounted.dropped
  | kStopped => exact haccounted.rejected

/-! ## The order of the queue -/

/-- The packets that workers took from the queue, in that order. -/
def tookPackets (trace : List Event) : List ReceivedPacket :=
  trace.filterMap fun
    | .took _ packet => some packet
    | _ => none

/-- The packets whose processor call was completed, by returning or by throwing, in that order. -/
def completedPackets (trace : List Event) : List ReceivedPacket :=
  trace.filterMap fun
    | .returned _ packet => some packet
    | .threw _ packet => some packet
    | _ => none

/-- **What was accepted was taken or waits**, in one order. -/
theorem acceptedPackets_eq (run : (system config).Reaches trace pipeline) :
    acceptedPackets trace = tookPackets trace ++ pipeline.queue := by
  refine run.invariant (fun trace pipeline =>
    acceptedPackets trace = tookPackets trace ++ pipeline.queue) ?_ ?_
  · intro pipeline hinitial
    obtain ⟨_, _, rfl⟩ := make_eq_ok hinitial
    rfl
  · rintro trace pipeline event next _ heq ⟨action, hperform⟩
    have htook : tookPackets (trace ++ [event]) = tookPackets trace ++ tookPackets [event] :=
      List.filterMap_append
    rw [acceptedPackets_append, htook, heq, List.append_assoc, List.append_assoc]
    refine congrArg _ ?_
    cases transition_of_perform hperform with
    | took worker packet rest idle front =>
      rw [front]
      exact List.append_nil _
    | accepted => rfl
    | _ => exact List.append_nil _

/-- **A single worker completed what it took**, but for what it holds, in one order. -/
theorem tookPackets_eq (single : config.workerCount = 1)
    (run : (system config).Reaches trace pipeline) :
    tookPackets trace = completedPackets trace ++ pipeline.heldPackets := by
  refine run.invariant (fun trace pipeline =>
    tookPackets trace = completedPackets trace ++ pipeline.heldPackets) ?_ ?_
  · intro pipeline hinitial
    obtain ⟨_, _, rfl⟩ := make_eq_ok hinitial
    refine (heldPackets_eq_nil fun worker hmem => ?_).symm
    rw [List.eq_of_mem_replicate hmem]
    rfl
  · rintro trace pipeline event next hrun heq ⟨action, hperform⟩
    have hcount := (reaches_invariant hrun).2.workerCount
    rw [single] at hcount
    obtain ⟨only, honly⟩ := List.length_eq_one_iff.mp hcount
    have htook : tookPackets (trace ++ [event]) = tookPackets trace ++ tookPackets [event] :=
      List.filterMap_append
    have hcompleted : completedPackets (trace ++ [event]) =
        completedPackets trace ++ completedPackets [event] := List.filterMap_append
    -- the worker whose step it is, is the only one
    have hheld (index : Nat) (old : Worker) (hold : pipeline.workers[index]? = some old) :
        pipeline.heldPackets = old.held.toList ∧ ∀ new : Worker,
          (pipeline.workers.set index new).filterMap Worker.held = new.held.toList := by
      rw [heldPackets, honly] at *
      obtain ⟨hlt, hget⟩ := List.getElem?_eq_some_iff.mp hold
      obtain rfl := Nat.lt_one_iff.mp hlt
      obtain rfl : only = old := hget
      refine ⟨?_, fun new => ?_⟩
      · cases only <;> rfl
      · cases new <;> rfl
    rw [htook, hcompleted, heq, List.append_assoc, List.append_assoc]
    refine congrArg _ ?_
    cases transition_of_perform hperform with
    | took worker packet rest idle front =>
      obtain ⟨hbefore, hafter⟩ := hheld worker _ idle
      rw [hbefore, heldPackets, hafter]
      rfl
    | exited worker idle drained requested =>
      obtain ⟨hbefore, hafter⟩ := hheld worker _ idle
      rw [hbefore, heldPackets, hafter]
      rfl
    | returned worker packet busy =>
      obtain ⟨hbefore, hafter⟩ := hheld worker _ busy
      rw [hbefore, heldPackets, hafter]
      rfl
    | threw worker packet busy =>
      obtain ⟨hbefore, hafter⟩ := hheld worker _ busy
      rw [hbefore, heldPackets, hafter]
      rfl
    | _ => exact List.append_nil _

/-! ## The theorems -/

/-- The books of the queue, after a run that stood in these states. -/
structure QueueAccounting (config : WorkerPipelineConfig) (states : List WorkerPipeline)
    (trace : List Event) (pipeline : WorkerPipeline) : Prop where
  waiting : pipeline.queue.length ≤ config.queueCapacity
  owned : pipeline.queue.length + pipeline.heldPackets.length ≤
    config.queueCapacity + config.workerCount
  highWatermark : IsGreatest {waiting | ∃ state ∈ states, state.queue.length = waiting}
    pipeline.metrics.queueHighWatermark
  counters : ∀ result, pipeline.metrics.resultCounter result =
    BitVec.ofNat 64 (submittedPackets result trace).length
  counted : ∀ packet result, (pipeline.trySubmit packet).1.metrics.resultCounter result =
    pipeline.metrics.resultCounter result +
      if (pipeline.trySubmit packet).2.1 = result then 1 else 0
  stopped : ∀ packet, (pipeline.trySubmit packet).2.1 = .kStopped ↔ Event.stopRequested ∈ trace
  full : ∀ packet, (pipeline.trySubmit packet).2.1 = .kQueueFull ↔
    Event.stopRequested ∉ trace ∧ pipeline.queue.length = config.queueCapacity
  unchanged : ∀ packet, (pipeline.trySubmit packet).2.1 ≠ .kAccepted →
    (pipeline.trySubmit packet).1.queue = pipeline.queue ∧
      (pipeline.trySubmit packet).1.workers = pipeline.workers ∧
      (pipeline.trySubmit packet).2.2 = some packet

/-- **Bounded queue accounting under every interleaving**: wherever a run stands, the bounds hold,
the watermark is the maximum so far, and a call of `try_submit` does as it answers. -/
theorem queue_accounting (config : WorkerPipelineConfig) (states : List WorkerPipeline)
    (trace : List Event) (pipeline : WorkerPipeline)
    (run : (system config).Visits states trace pipeline) :
    QueueAccounting config states trace pipeline := by
  have hwaiting := queue_bounded run.reaches
  have hdraining := (reaches_invariant run.reaches).2
  have hclosed := closed_iff run.reaches
  exact {
    waiting := hwaiting
    owned := by
      have hheld : pipeline.heldPackets.length ≤ pipeline.workers.length :=
        List.length_filterMap_le _ _
      exact Nat.add_le_add hwaiting (hheld.trans_eq hdraining.workerCount)
    highWatermark := highWatermark_isGreatest run
    counters := resultCounter_eq run.reaches
    counted := fun packet result => resultCounter_trySubmit pipeline packet result
    stopped := fun packet => by
      rw [← hclosed]
      rcases trySubmit_cases pipeline packet with
        ⟨hshut, hresult⟩ | ⟨hopen, _, hresult⟩ | ⟨hopen, _, hresult⟩
      · exact ⟨fun _ => hshut, fun _ => congrArg Prod.fst hresult⟩
      · rw [hresult, hopen]
        exact ⟨nofun, nofun⟩
      · rw [hresult, hopen]
        exact ⟨nofun, nofun⟩
    full := fun packet => by
      rw [← hclosed, ← hdraining.config_eq]
      rw [← hdraining.config_eq] at hwaiting
      rcases trySubmit_cases pipeline packet with
        ⟨hshut, hresult⟩ | ⟨hopen, hfull, hresult⟩ | ⟨hopen, hroom, hresult⟩
      · rw [hresult, hshut]
        exact ⟨nofun, fun h => absurd rfl h.1⟩
      · rw [hresult, hopen]
        exact ⟨fun _ => ⟨nofun, Nat.le_antisymm hwaiting hfull⟩, fun _ => rfl⟩
      · rw [hresult]
        exact ⟨nofun, fun h => absurd h.2 (Nat.ne_of_lt hroom)⟩
    unchanged := fun packet refused => trySubmit_refused pipeline packet refused }

/-- One packet with the only worker, one in the queue, one turned away, and a stop request. -/
theorem queue_accounting_full :
    ∃ states pipeline,
      (system { workerCount := 1, queueCapacity := 1 }).Visits states
        [.submitted {} .kAccepted, .took 0 {}, .submitted {} .kAccepted, .submitted {} .kQueueFull,
          .stopBegun, .stopRequested] pipeline ∧
      QueueAccounting { workerCount := 1, queueCapacity := 1 } states
        [.submitted {} .kAccepted, .took 0 {}, .submitted {} .kAccepted, .submitted {} .kQueueFull,
          .stopBegun, .stopRequested] pipeline ∧
      (pipeline.trySubmit {}).2.1 = .kStopped ∧ pipeline.metrics.queueHighWatermark = 1 := by
  have hschedule : performAll perform { config := { workerCount := 1, queueCapacity := 1 } }
      [.trySubmit {}, .acquire 0, .trySubmit {}, .trySubmit {}, .lockLifecycle, .requestStop] =
      some ({ config := { workerCount := 1, queueCapacity := 1 }, queue := [{}]
              workers := [.processing {}], accepting := false, stopRequested := true
              lifecycle := .joining
              metrics := { packetsSubmitted := 2, packetsDroppedQueueFull := 1
                           queueHighWatermark := 1 } },
        [.submitted {} .kAccepted, .took 0 {}, .submitted {} .kAccepted,
          .submitted {} .kQueueFull, .stopBegun, .stopRequested]) := by
    decide +kernel
  have hstart : (system { workerCount := 1, queueCapacity := 1 }).Reaches [] _ := .start rfl
  have hrun := hstart.performAll (fun _ action _ _ h => ⟨action, h⟩) _ hschedule
  obtain ⟨states, hvisits⟩ := hrun.exists_visits
  exact ⟨states, _, hvisits, queue_accounting _ _ _ _ hvisits, rfl, rfl⟩

/-- **First in, first out**: at all times the packets taken are the first accepted ones, in their
order, and the calls that a single worker has completed are too. -/
theorem queue_fifo (config : WorkerPipelineConfig) (trace : List Event) (pipeline : WorkerPipeline)
    (run : (system config).Reaches trace pipeline) :
    tookPackets trace <+: acceptedPackets trace ∧
      (config.workerCount = 1 → completedPackets trace <+: acceptedPackets trace) := by
  have haccepted := acceptedPackets_eq run
  have htook : tookPackets trace <+: acceptedPackets trace := haccepted ▸ List.prefix_append _ _
  refine ⟨htook, fun single => ?_⟩
  have hcompleted : completedPackets trace <+: tookPackets trace :=
    tookPackets_eq single run ▸ List.prefix_append _ _
  exact hcompleted.trans htook

/-- Two packets and one worker, whose first call throws. -/
theorem queue_fifo_failure :
    ∃ trace pipeline, (system { workerCount := 1 }).Reaches trace pipeline ∧
      pipeline.metrics.handlerFailures = 1 ∧
      completedPackets trace = [{}, { receiveTimestampNs := 1 }] ∧
      tookPackets trace <+: acceptedPackets trace ∧
      completedPackets trace <+: acceptedPackets trace := by
  have hschedule : performAll perform { config := { workerCount := 1 } }
      [.trySubmit {}, .trySubmit { receiveTimestampNs := 1 }, .acquire 0, .finish 0 true, .acquire 0,
        .finish 0 false] =
      some ({ config := { workerCount := 1 }
              metrics := { packetsSubmitted := 2, packetsProcessed := 1, handlerFailures := 1
                           queueHighWatermark := 2 } },
        [.submitted {} .kAccepted, .submitted { receiveTimestampNs := 1 } .kAccepted, .took 0 {},
          .threw 0 {}, .took 0 { receiveTimestampNs := 1 },
          .returned 0 { receiveTimestampNs := 1 }]) := by
    decide +kernel
  have hstart : (system { workerCount := 1 }).Reaches [] _ := .start rfl
  have hrun := hstart.performAll (fun _ action _ _ h => ⟨action, h⟩) _ hschedule
  obtain ⟨htook, hcompleted⟩ := queue_fifo _ _ _ hrun
  exact ⟨_, _, hrun, rfl, rfl, htook, hcompleted rfl⟩

end Runs

end WorkerPipeline

end Driveflow.Runtime

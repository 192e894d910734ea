import Driveflow.Laws.Runtime.RunSteps
import Driveflow.Laws.Runtime.SourceCounters

/-!
# The ledger of a run

Five modules count the same packets at different points, on different threads. `Ledger` is what the
summary of a run says about the run's own history, and `run_ledger` proves it for every schedule.

The I/O thread keeps `Considered`: every packet it considered was accepted, refused or is in its
hands. The pipeline keeps every accepted packet accounted for, the workers keep the flow of packets
through the processor, and the monitor keeps its counters. When `stop` has returned, nothing is in
flight any more, and the accounts close.
-/

namespace Driveflow.Runtime

open Library Net Protocol

namespace Run

open WorkerPipeline (Worker acceptedPackets returnedPackets threwPackets submittedPackets
  heldPackets)
open SensorSampleProcessor (Phase CallEvent Call Tallied)

/-! ## What a history saw -/

/-- The packets the I/O thread considered. -/
def consideredPackets (trace : List Event) : List ReceivedPacket :=
  trace.filterMap fun
    | .considered packet => some packet
    | _ => none

/-- The samples the handler was invoked with. -/
def handlerInvocations (trace : List Event) : List SensorSample :=
  trace.filterMap fun
    | .sample _ _ (.handlerInvoked sample) => some sample
    | _ => none

/-- The packets whose handler invocation threw. -/
def handlerFailures (trace : List Event) : List ReceivedPacket :=
  trace.filterMap fun
    | .sample _ packet .handlerThrew => some packet
    | _ => none

/-- How often the I/O thread counted a packet. -/
def countedSteps (trace : List Event) : Nat := trace.countP fun event => event = .counted

section Append

variable (trace trace' : List Event)

theorem consideredPackets_append :
    consideredPackets (trace ++ trace') = consideredPackets trace ++ consideredPackets trace' :=
  List.filterMap_append

theorem pipelineEvents_append :
    pipelineEvents (trace ++ trace') = pipelineEvents trace ++ pipelineEvents trace' :=
  List.filterMap_append

theorem healthEvents_append :
    healthEvents (trace ++ trace') = healthEvents trace ++ healthEvents trace' :=
  List.filterMap_append

end Append

/-- The monitor observed the considered packets. -/
theorem observedPackets_healthEvents (trace : List Event) :
    observedPackets (healthEvents trace) = consideredPackets trace := by
  rw [observedPackets, healthEvents, List.filterMap_filterMap]
  refine List.filterMap_congr fun event _ => ?_
  cases event <;> rfl

/-! ## The I/O thread -/

namespace Stage

/-- The packet that was considered and not yet submitted. -/
def pending : Stage → List ReceivedPacket
  | .submitting packet _ => [packet]
  | _ => []

/-- The packet that was refused, before the monitor is told. -/
def unreported : Stage → List ReceivedPacket
  | .refused packet _ => [packet]
  | _ => []

/-- Whether a packet was considered and not yet counted. -/
def uncounted : Stage → Nat
  | .submitting _ _ | .refused _ _ | .counting _ => 1
  | _ => 0

/-- Whether the limit was asked about the packet in hand. -/
def admits : Stage → Bool
  | .observing _ _ | .submitting _ _ | .refused _ _ | .counting _ => true
  | _ => false

/-- Before the clock is read. -/
def looping : Stage → Bool
  | .stopping _ | .collecting _ _ | .returned => false
  | _ => true

/-- The places where the I/O thread holds no packet that it considered. -/
structure Idle (stage : Stage) : Prop where
  pending : stage.pending = []
  unreported : stage.unreported = []
  uncounted : stage.uncounted = 0
  admits : stage.admits = false
  collecting : ∀ timestamp metrics, stage ≠ .collecting timestamp metrics

/-- The loop holds no packet in its hands between two of them. -/
theorem idle_continue (packets : List ReceivedPacket) : (Stage.continue packets).Idle := by
  cases packets <;> exact ⟨rfl, rfl, rfl, rfl, fun _ _ h => nomatch h⟩

end Stage

/-- Every packet the I/O thread considered was accepted, was refused, or is in its hands; every
refusal was reported, or is about to be; and every packet was counted, or is about to be. -/
structure Considered (trace : List Event) (state : State) : Prop where
  submitted : (consideredPackets trace : Multiset ReceivedPacket) =
    acceptedPackets (pipelineEvents trace) +
      submittedPackets .kQueueFull (pipelineEvents trace) + state.stage.pending
  unstopped : submittedPackets .kStopped (pipelineEvents trace) = []
  reported : submittedPackets .kQueueFull (pipelineEvents trace) =
    issuePackets .kQueueDropped (healthEvents trace) ++ state.stage.unreported
  counted : (consideredPackets trace).length = countedSteps trace + state.stage.uncounted
  received : state.packetsReceived = BitVec.ofNat 64 (countedSteps trace)

/-- A step of the I/O thread, or of another thread, passes on what it holds. -/
private theorem Considered.move {trace : List Event} {state next : State} {event : Event}
    (h : Considered trace state)
    (submitted : (state.stage.pending : Multiset ReceivedPacket) + consideredPackets [event] =
      acceptedPackets (pipelineEvents [event]) +
        submittedPackets .kQueueFull (pipelineEvents [event]) + next.stage.pending)
    (unstopped : submittedPackets .kStopped (pipelineEvents [event]) = [])
    (reported : state.stage.unreported ++
        submittedPackets .kQueueFull (pipelineEvents [event]) =
      issuePackets .kQueueDropped (healthEvents [event]) ++ next.stage.unreported)
    (counted : state.stage.uncounted + (consideredPackets [event]).length =
      countedSteps [event] + next.stage.uncounted)
    (received : next.packetsReceived =
      state.packetsReceived + BitVec.ofNat 64 (countedSteps [event])) :
    Considered (trace ++ [event]) next := by
  have hcounted : countedSteps (trace ++ [event]) = countedSteps trace + countedSteps [event] :=
    List.countP_append
  have hissues : issuePackets .kQueueDropped (healthEvents (trace ++ [event])) =
      issuePackets .kQueueDropped (healthEvents trace) ++
        issuePackets .kQueueDropped (healthEvents [event]) := by
    rw [healthEvents_append]
    exact List.filterMap_append
  constructor
  · rw [consideredPackets_append, pipelineEvents_append, WorkerPipeline.acceptedPackets_append,
      WorkerPipeline.submittedPackets_append, ← Multiset.coe_add, ← Multiset.coe_add,
      ← Multiset.coe_add, h.submitted]
    calc (acceptedPackets (pipelineEvents trace) : Multiset ReceivedPacket) +
            submittedPackets .kQueueFull (pipelineEvents trace) + state.stage.pending +
            consideredPackets [event]
        = acceptedPackets (pipelineEvents trace) +
            submittedPackets .kQueueFull (pipelineEvents trace) +
            (state.stage.pending + consideredPackets [event]) := add_assoc _ _ _
      _ = acceptedPackets (pipelineEvents trace) +
            submittedPackets .kQueueFull (pipelineEvents trace) +
            (acceptedPackets (pipelineEvents [event]) +
              submittedPackets .kQueueFull (pipelineEvents [event]) + next.stage.pending) := by
          rw [submitted]
      _ = _ := by abel
  · rw [pipelineEvents_append, WorkerPipeline.submittedPackets_append, h.unstopped, unstopped]
    rfl
  · rw [pipelineEvents_append, WorkerPipeline.submittedPackets_append, h.reported,
      List.append_assoc, reported, hissues, List.append_assoc]
  · rw [consideredPackets_append, List.length_append, h.counted, hcounted]
    omega
  · rw [received, h.received, hcounted, BitVec.ofNat_add]

/-- A step that considers, submits, reports and counts nothing, between places where nothing is
held or from a place to itself. -/
private theorem Considered.silent {trace : List Event} {state next : State} {event : Event}
    (h : Considered trace state)
    (held : next.stage = state.stage ∨ state.stage.Idle ∧ next.stage.Idle)
    (considered : consideredPackets [event] = [])
    (submitted : ∀ result, submittedPackets result (pipelineEvents [event]) = [])
    (accepted : acceptedPackets (pipelineEvents [event]) = [])
    (reported : issuePackets .kQueueDropped (healthEvents [event]) = [])
    (counted : countedSteps [event] = 0)
    (received : next.packetsReceived = state.packetsReceived) :
    Considered (trace ++ [event]) next := by
  have hheld : next.stage.pending = state.stage.pending ∧
      next.stage.unreported = state.stage.unreported ∧
      next.stage.uncounted = state.stage.uncounted := by
    rcases held with hsame | ⟨hidle, hnext⟩
    · rw [hsame]
      exact ⟨rfl, rfl, rfl⟩
    · exact ⟨hnext.pending.trans hidle.pending.symm, hnext.unreported.trans hidle.unreported.symm,
        hnext.uncounted.trans hidle.uncounted.symm⟩
  obtain ⟨hpending, hunreported, huncounted⟩ := hheld
  refine h.move ?_ (submitted _) ?_ ?_ ?_
  · rw [considered, accepted, submitted, hpending, Multiset.coe_nil, add_zero, zero_add, zero_add]
  · rw [submitted, reported, hunreported, List.append_nil, List.nil_append]
  · rw [considered, counted, huncounted, List.length_nil, Nat.zero_add, Nat.add_zero]
  · rw [received, counted]
    exact (BitVec.add_zero _).symm

/-- What the stages of the I/O thread guarantee: submissions meet an open pipeline, packets are
counted below the limit, and metrics are collected when every worker has exited. -/
structure Guarded (config : RuntimeConfig) (state : State) : Prop where
  config_eq : state.config = config
  opened : state.stage.looping = true → state.pipeline.accepting = true
  within : ∀ packetCount, config.packetCount = some packetCount →
    state.packetsReceived ≤ packetCount ∧
      (state.stage.admits = true → state.packetsReceived < packetCount)
  collected : ∀ timestamp metrics, state.stage = .collecting timestamp metrics →
    (∀ worker ∈ state.pipeline.workers, worker = .exited) ∧ state.pipeline.metrics = metrics

namespace Guarded

variable {config : RuntimeConfig} {state next : State}

/-- A step of the I/O thread outside the pipeline, to a place that is not collecting. -/
private theorem stage_step (h : Guarded config state) (looping : state.stage.looping = true)
    (config_eq : next.config = state.config) (pipeline : next.pipeline = state.pipeline)
    (received : next.packetsReceived = state.packetsReceived)
    (admits : next.stage.admits = true →
      state.stage.admits = true ∨ limitReached state = false)
    (collecting : ∀ timestamp metrics, next.stage ≠ .collecting timestamp metrics) :
    Guarded config next := by
  refine ⟨config_eq.trans h.config_eq, fun _ => pipeline ▸ h.opened looping, ?_,
    fun _ _ hstage => absurd hstage (collecting _ _)⟩
  intro packetCount hcount
  obtain ⟨hle, hlt⟩ := h.within packetCount hcount
  rw [received]
  refine ⟨hle, fun hadmits => ?_⟩
  rcases admits hadmits with hbefore | hlimit
  · exact hlt hbefore
  · unfold limitReached at hlimit
    rw [h.config_eq, hcount] at hlimit
    exact BitVec.not_le.mp (of_decide_eq_false hlimit)

/-- A step of the pipeline that leaves the stage where it is, or goes on in the loop. -/
private theorem pipeline_step {event : WorkerPipeline.Event} (h : Guarded config state)
    (step : WorkerPipeline.Transition state.pipeline event next.pipeline)
    (config_eq : next.config = state.config)
    (received : next.packetsReceived = state.packetsReceived)
    (opened : next.stage.looping = true →
      state.stage.looping = true ∧ event ≠ .stopRequested)
    (admits : next.stage.admits = true → state.stage.admits = true)
    (collecting : ∀ timestamp metrics, next.stage = .collecting timestamp metrics →
      (∀ worker ∈ next.pipeline.workers, worker = .exited) ∧
        next.pipeline.metrics = metrics) :
    Guarded config next := by
  refine ⟨config_eq.trans h.config_eq, ?_, ?_, collecting⟩
  · intro hlooping
    obtain ⟨hbefore, hevent⟩ := opened hlooping
    rw [step.accepting_eq hevent, h.opened hbefore]
  · intro packetCount hcount
    obtain ⟨hle, hlt⟩ := h.within packetCount hcount
    rw [received]
    exact ⟨hle, fun hadmits => hlt (admits hadmits)⟩

/-- While metrics are collected no worker runs. -/
private theorem not_collecting (h : Guarded config state) {index : Nat} {worker : Worker}
    (running : state.pipeline.workers[index]? = some worker) (live : worker ≠ .exited)
    (timestamp : BitVec 64) (metrics : WorkerPipelineMetrics) :
    state.stage ≠ .collecting timestamp metrics := by
  intro hstage
  exact live ((h.collected _ _ hstage).1 worker (List.mem_of_getElem? running))

/-- A worker's step of the pipeline. -/
private theorem worker_step {event : WorkerPipeline.Event} (h : Guarded config state)
    (step : WorkerPipeline.Transition state.pipeline event next.pipeline)
    (config_eq : next.config = state.config) (stage : next.stage = state.stage)
    (received : next.packetsReceived = state.packetsReceived) (open_ : event ≠ .stopRequested)
    {index : Nat} {worker : Worker}
    (running : state.pipeline.workers[index]? = some worker) (live : worker ≠ .exited) :
    Guarded config next := by
  refine h.pipeline_step step config_eq received (fun hloop => ⟨stage ▸ hloop, open_⟩)
    (fun hadmits => stage ▸ hadmits) ?_
  intro timestamp metrics hstage
  exact absurd (stage ▸ hstage) (h.not_collecting running live timestamp metrics)

/-- **Every step keeps the guarantees.** -/
theorem step {event : Event} (h : Guarded config state) (step : Transition state event next) :
    Guarded config next := by
  cases step with
  | decided answer stands =>
    refine h.stage_step (by rw [stands]; rfl) rfl rfl rfl ?_ ?_
    · dsimp only
      split <;> exact fun h => nomatch h
    · dsimp only
      split <;> exact fun _ _ h => nomatch h
  | checked answer packet rest stands =>
    refine h.stage_step (by rw [stands]; rfl) rfl rfl rfl ?_ ?_
    · dsimp only
      split
      next => exact fun h => nomatch h
      next hcontinues =>
        exact fun _ => Or.inr (Bool.eq_false_iff.mpr fun hlimit =>
          hcontinues (by rw [hlimit, Bool.or_true]))
    · dsimp only
      split <;> exact fun _ _ h => nomatch h
  | polled packets receiverMetrics stands =>
    have hidle := Stage.idle_continue packets
    refine h.stage_step (by rw [stands]; rfl) rfl rfl rfl ?_ hidle.collecting
    intro hadmits
    cases hidle.admits.symm.trans hadmits
  | considered packet rest stands =>
    refine h.stage_step (by rw [stands]; rfl) rfl rfl rfl ?_ fun _ _ h => nomatch h
    exact fun _ => Or.inl (by rw [stands]; rfl)
  | refused packet rest pipeline stands submits =>
    refine h.pipeline_step (WorkerPipeline.transition_of_perform submits) rfl rfl ?_ ?_
      fun _ _ h => nomatch h
    · exact fun _ => ⟨by rw [stands]; rfl, fun h => nomatch h⟩
    · exact fun _ => by rw [stands]; rfl
  | submitted packet rest pipeline result stands settled submits =>
    refine h.pipeline_step (WorkerPipeline.transition_of_perform submits) rfl rfl ?_ ?_
      fun _ _ h => nomatch h
    · exact fun _ => ⟨by rw [stands]; rfl, fun h => nomatch h⟩
    · exact fun _ => by rw [stands]; rfl
  | dropObserved packet rest stands =>
    refine h.stage_step (by rw [stands]; rfl) rfl rfl rfl ?_ fun _ _ h => nomatch h
    exact fun _ => Or.inl (by rw [stands]; rfl)
  | counted rest stands =>
    have hidle := Stage.idle_continue rest
    refine ⟨h.config_eq, fun _ => h.opened (by rw [stands]; rfl), ?_,
      fun _ _ hstage => absurd hstage (hidle.collecting _ _)⟩
    intro packetCount hcount
    have hlt := (h.within packetCount hcount).2 (by rw [stands]; rfl)
    refine ⟨?_, fun hadmits => ?_⟩
    · have hbound := packetCount.isLt
      have hone : (1 : BitVec 64).toNat = 1 := rfl
      rw [BitVec.lt_def] at hlt
      rw [BitVec.le_def, BitVec.toNat_add, hone]
      omega
    · cases hidle.admits.symm.trans hadmits
  | clockRead timestamp stands =>
    refine h.stage_step (by rw [stands]; rfl) rfl rfl rfl (fun h => nomatch h) ?_
    exact fun _ _ h => nomatch h
  | stopSteps timestamp action event pipeline stands steps stop =>
    refine h.pipeline_step (WorkerPipeline.transition_of_perform steps) rfl rfl ?_ id ?_
    · intro hlooping
      rw [show state.stage = _ from stands] at hlooping
      cases hlooping
    · intro _ _ hstage
      rw [show state.stage = _ from stands] at hstage
      cases hstage
  | stopped timestamp pipeline metrics stands steps =>
    refine h.pipeline_step (WorkerPipeline.transition_of_perform steps) rfl rfl
      (fun h => nomatch h) (fun h => nomatch h) ?_
    rintro _ _ hstage
    cases hstage
    cases WorkerPipeline.transition_of_perform steps with
    | stopReturned joining joined => exact ⟨joined, rfl⟩
  | returned timestamp metrics stands =>
    refine ⟨h.config_eq, (fun h => nomatch h), ?_, fun _ _ h => nomatch h⟩
    exact fun packetCount hcount => ⟨(h.within packetCount hcount).1, fun h => nomatch h⟩
  | took worker packet pipeline steps =>
    have hstep := WorkerPipeline.transition_of_perform steps
    have hrunning := hstep
    cases hrunning with
    | took _ _ rest idle front =>
      exact h.worker_step hstep rfl rfl rfl (fun h => nomatch h) idle fun h => nomatch h
  | exited worker pipeline steps =>
    have hstep := WorkerPipeline.transition_of_perform steps
    have hrunning := hstep
    cases hrunning with
    | exited _ idle drained requested =>
      exact h.worker_step hstep rfl rfl rfl (fun h => nomatch h) idle fun h => nomatch h
  | advanced worker packet call call' event busy job origin target sound =>
    exact ⟨h.config_eq, h.opened, h.within, h.collected⟩
  | reported worker packet job busy job_eq phase =>
    exact ⟨h.config_eq, h.opened, h.within, h.collected⟩
  | finished worker packet job pipeline job_eq phase steps =>
    have hstep := WorkerPipeline.transition_of_perform steps
    have hrunning := hstep
    cases hrunning with
    | returned _ _ busy =>
      exact h.worker_step hstep rfl rfl rfl (fun h => nomatch h) busy fun h => nomatch h
  | failed worker packet job pipeline job_eq phase steps =>
    have hstep := WorkerPipeline.transition_of_perform steps
    have hrunning := hstep
    cases hrunning with
    | threw _ _ busy =>
      exact h.worker_step hstep rfl rfl rfl (fun h => nomatch h) busy fun h => nomatch h

end Guarded

/-- A step of the pipeline other than a submission is no concern of the I/O thread's account. -/
private theorem Considered.pipeline_step {trace : List Event} {state next : State}
    {event : WorkerPipeline.Event} (h : Considered trace state)
    (held : next.stage = state.stage ∨ state.stage.Idle ∧ next.stage.Idle)
    (received : next.packetsReceived = state.packetsReceived)
    (other : ∀ packet result, event ≠ .submitted packet result) :
    Considered (trace ++ [.pipeline event]) next := by
  refine h.silent held rfl (fun result => ?_) ?_ rfl rfl received
  · cases event with
    | submitted packet result => exact absurd rfl (other packet result)
    | _ => rfl
  · cases event with
    | submitted packet result => exact absurd rfl (other packet result)
    | _ => rfl

/-- **Every step keeps the I/O thread's account.** -/
theorem Considered.step {config : RuntimeConfig} {trace : List Event} {state next : State}
    {event : Event} (h : Considered trace state) (guarded : Guarded config state)
    (step : Transition state event next) : Considered (trace ++ [event]) next := by
  have same (value : BitVec 64) : value = value + BitVec.ofNat 64 0 := (BitVec.add_zero _).symm
  have idle {stage : Stage} (h : stage = .deciding ∨ stage = .polling ∨ stage = .leaving) :
      stage.Idle := by
    rcases h with rfl | rfl | rfl <;> exact ⟨rfl, rfl, rfl, rfl, fun _ _ h => nomatch h⟩
  cases step with
  | decided answer stands =>
    refine h.silent (Or.inr ⟨idle (Or.inl stands), idle ?_⟩) rfl (fun _ => rfl) rfl rfl rfl rfl
    dsimp only
    split
    · exact Or.inr (Or.inr rfl)
    · exact Or.inr (Or.inl rfl)
  | checked answer packet rest stands =>
    have hheld : state.stage.pending = [] ∧ state.stage.unreported = [] ∧
        state.stage.uncounted = 0 := by
      rw [stands]
      exact ⟨rfl, rfl, rfl⟩
    obtain ⟨hpending, hunreported, huncounted⟩ := hheld
    refine h.move ?_ rfl ?_ ?_ (same _)
    · rw [hpending]
      dsimp only
      split <;> rfl
    · rw [hunreported]
      dsimp only
      split <;> rfl
    · rw [huncounted]
      dsimp only
      split <;> rfl
  | polled packets receiverMetrics stands =>
    exact h.silent (Or.inr ⟨idle (Or.inr (Or.inl stands)), Stage.idle_continue packets⟩) rfl
      (fun _ => rfl) rfl rfl rfl rfl
  | considered packet rest stands =>
    refine h.move ?_ rfl ?_ ?_ (same _)
    all_goals
      rw [stands]
      rfl
  | refused packet rest pipeline stands submits =>
    refine h.move ?_ rfl ?_ ?_ (same _)
    all_goals
      rw [stands]
      rfl
  | submitted packet rest pipeline result stands settled submits =>
    cases result with
    | kQueueFull => exact absurd rfl settled
    | kAccepted =>
      refine h.move ?_ rfl ?_ ?_ (same _)
      all_goals
        rw [stands]
        rfl
    | kStopped =>
      -- the pipeline is open while the I/O thread is in its loop
      cases WorkerPipeline.transition_of_perform submits with
      | rejected _ closed =>
        have hopen := guarded.opened (by rw [stands]; rfl)
        rw [closed] at hopen
        cases hopen
  | dropObserved packet rest stands =>
    refine h.move ?_ rfl ?_ ?_ (same _)
    all_goals
      rw [stands]
      rfl
  | counted rest stands =>
    have hidle := Stage.idle_continue rest
    refine h.move ?_ rfl ?_ ?_ rfl
    · rw [stands, hidle.pending]
      rfl
    · rw [stands, hidle.unreported]
      rfl
    · rw [stands, hidle.uncounted]
      rfl
  | clockRead timestamp stands =>
    refine h.move ?_ rfl ?_ ?_ (same _)
    all_goals
      rw [stands]
      rfl
  | stopSteps timestamp action event pipeline stands steps stop =>
    refine h.pipeline_step (Or.inl rfl) rfl ?_
    rcases stop with rfl | rfl <;> exact fun _ _ h => nomatch h
  | stopped timestamp pipeline metrics stands steps =>
    refine h.move ?_ rfl ?_ ?_ (same _)
    all_goals
      rw [stands]
      rfl
  | returned timestamp metrics stands =>
    refine h.move ?_ rfl ?_ ?_ (same _)
    all_goals
      rw [stands]
      rfl
  | took worker packet pipeline steps =>
    exact h.pipeline_step (Or.inl rfl) rfl fun _ _ h => nomatch h
  | exited worker pipeline steps =>
    exact h.pipeline_step (Or.inl rfl) rfl fun _ _ h => nomatch h
  | advanced worker packet call call' event busy job origin target sound =>
    exact h.silent (Or.inl rfl) rfl (fun _ => rfl) rfl rfl rfl rfl
  | reported worker packet job busy job_eq phase =>
    exact h.silent (Or.inl rfl) rfl (fun _ => rfl) rfl rfl rfl rfl
  | finished worker packet job pipeline job_eq phase steps =>
    exact h.pipeline_step (Or.inl rfl) rfl fun _ _ h => nomatch h
  | failed worker packet job pipeline job_eq phase steps =>
    exact h.pipeline_step (Or.inl rfl) rfl fun _ _ h => nomatch h

/-- **Every reachable state of a run** keeps the account of the I/O thread and its guarantees. -/
theorem reaches_considered {config : RuntimeConfig} {trace : List Event} {state : State}
    (run : (system config).Reaches trace state) :
    Considered trace state ∧ Guarded config state := by
  refine run.invariant (fun trace state => Considered trace state ∧ Guarded config state) ?_ ?_
  · rintro _ ⟨_, pipeline, _, _, hmake, rfl⟩
    obtain ⟨_, _, rfl⟩ := WorkerPipeline.make_eq_ok hmake
    refine ⟨⟨rfl, rfl, rfl, rfl, rfl⟩, rfl, fun _ => rfl, ?_, fun _ _ h => nomatch h⟩
    exact fun _ _ => ⟨BitVec.le_def.mpr (Nat.zero_le _), fun h => nomatch h⟩
  · rintro trace state event next _ ⟨hconsidered, hguarded⟩ ⟨action, hperform⟩
    have hstep := transition_of_perform hperform
    exact ⟨hconsidered.step hguarded hstep, hguarded.step hstep⟩

/-! ## The monitor -/

section Reached

variable {config : RuntimeConfig} {trace : List Event} {state : State}

/-- An accepted packet was considered. -/
theorem considered_of_accepted (h : Considered trace state) {packet : ReceivedPacket}
    (accepted : packet ∈ acceptedPackets (pipelineEvents trace)) :
    packet ∈ consideredPackets trace := by
  rw [← Multiset.mem_coe, h.submitted, Multiset.mem_add, Multiset.mem_add]
  exact Or.inl (Or.inl accepted)

/-- A packet in a call of the packet processor was considered. -/
private theorem considered_of_processing (run : (system config).Reaches trace state)
    {worker : Nat} {packet : ReceivedPacket}
    (busy : state.pipeline.workers[worker]? = some (.processing packet)) :
    packet ∈ consideredPackets trace := by
  have haccounted := (WorkerPipeline.reaches_invariant (reaches_pipeline run)).1
  refine considered_of_accepted (reaches_considered run).1 ?_
  have hheld : packet ∈ state.pipeline.heldPackets :=
    List.mem_filterMap.mpr ⟨_, List.mem_of_getElem? busy, rfl⟩
  rw [← Multiset.mem_coe, haccounted.conserved, Multiset.mem_add, Multiset.mem_add,
    Multiset.mem_add]
  exact Or.inl (Or.inl (Or.inr hheld))

/-- **Every issue follows its packet**, whichever thread reports it. -/
theorem heralded (run : (system config).Reaches trace state) :
    Heralded (healthEvents trace) := by
  refine run.invariant (fun trace _ => Heralded (healthEvents trace)) ?_ ?_
  · exact fun _ _ => .nil
  · rintro trace state event next run hheralded ⟨action, hperform⟩
    rw [healthEvents_append]
    cases transition_of_perform hperform with
    | considered packet rest stands => exact hheralded.packet packet
    | dropObserved packet rest stands =>
      refine hheralded.issue ?_ .kQueueDropped
      have hconsidered := (reaches_considered run).1
      rw [observedPackets_healthEvents, ← Multiset.mem_coe, hconsidered.submitted,
        hconsidered.reported, stands, Multiset.mem_add, Multiset.mem_add]
      exact Or.inl (Or.inr (List.mem_append_right _ List.mem_cons_self))
    | reported worker packet job busy job_eq phase =>
      refine hheralded.issue ?_ .kPayloadRejected
      rw [observedPackets_healthEvents]
      exact considered_of_processing run busy
    | _ => exact (List.append_nil (healthEvents trace)).symm ▸ hheralded

/-! ## The workers -/

/-- The packets of the calls that came to a phase. -/
def callsTo (phase : Phase) (trace : List Event) : List ReceivedPacket :=
  trace.filterMap fun
    | .sample _ packet event => if event.target = phase then some packet else none
    | _ => none

/-- There is one call of a phase for each step into it. -/
theorem length_callsTo (phase : Phase) (trace : List Event) :
    (callsTo phase trace).length =
      (callEvents trace).countP fun event => event.target = phase := by
  rw [callsTo, callEvents, List.length_filterMap_eq_countP, List.countP_filterMap]
  refine List.countP_congr fun event _ => ?_
  cases event with
  | sample worker packet call =>
    by_cases hphase : call.target = phase
    · simp [Event.call?, hphase]
    · simp [Event.call?, hphase]
  | _ => exact Iff.rfl

/-- A list collected by two kinds. -/
private theorem coe_filterMap_add {Item Value : Type} (f g h : Item → Option Value)
    (kinds : ∀ item, (f item = g item ∧ h item = none) ∨ (f item = h item ∧ g item = none))
    (items : List Item) :
    (items.filterMap f : Multiset Value) = items.filterMap g + items.filterMap h := by
  induction items with
  | nil => rfl
  | cons item items ih =>
    have hcons (f : Item → Option Value) : ((item :: items).filterMap f : Multiset Value) =
        (f item).toList + items.filterMap f := by
      rw [List.filterMap_cons]
      cases f item <;> rfl
    rw [hcons, hcons, hcons, ih]
    rcases kinds item with ⟨hsame, hnone⟩ | ⟨hsame, hnone⟩
    · rw [hsame, hnone, Option.toList_none, Multiset.coe_nil, zero_add, add_assoc]
    · rw [hsame, hnone, Option.toList_none, Multiset.coe_nil, zero_add, add_left_comm]

/-- The packet, if it is in the phase. -/
def inPhase (phase : Phase) (item : Phase × ReceivedPacket) : Option ReceivedPacket :=
  if item.1 = phase then some item.2 else none

/-- When every worker has exited, what arrived in a phase departed from it. -/
private theorem arrivals_eq_departures (run : (system config).Reaches trace state)
    (exited : ∀ worker ∈ state.pipeline.workers, worker = .exited) (phase : Phase) :
    (trace.filterMap (fun event => event.arrival.bind (inPhase phase)) :
        Multiset ReceivedPacket) =
      trace.filterMap fun event => event.departure.bind (inPhase phase) := by
  have hslots : (slots state).filterMap slotHeld = [] := by
    refine List.filterMap_eq_nil_iff.mpr fun slot hmem => ?_
    rw [slotHeld, exited _ (List.of_mem_zip hmem).1]
    rfl
  have hflow := flow run
  rw [hslots, Multiset.coe_nil, add_zero] at hflow
  have hphase := congrArg (Multiset.filterMap (inPhase phase)) hflow
  rwa [Multiset.filterMap_coe, Multiset.filterMap_coe, List.filterMap_filterMap,
    List.filterMap_filterMap] at hphase

/-- The packets of the calls that left a phase. -/
def callsFrom (phase : Phase) (trace : List Event) : List ReceivedPacket :=
  trace.filterMap fun
    | .sample _ packet event => if event.origin = phase then some packet else none
    | _ => none

/-- A packet arrives in a phase inside a call by an event of the call. -/
theorem arrivals_eq_callsTo {phase : Phase} (entered : phase ≠ .entered)
    (done : phase ≠ .done) (trace : List Event) :
    trace.filterMap (fun event => event.arrival.bind (inPhase phase)) = callsTo phase trace := by
  refine List.filterMap_congr fun event _ => ?_
  cases event with
  | pipeline event =>
    cases event with
    | took worker packet => exact if_neg entered.symm
    | _ => rfl
  | rejectionObserved worker packet => exact if_neg done.symm
  | _ => rfl

/-- A packet departs from a phase inside a call by an event of the call. -/
theorem departures_eq_callsFrom {phase : Phase} (done : phase ≠ .done)
    (threw : phase ≠ .threw) (rejected : phase ≠ .rejected) (trace : List Event) :
    trace.filterMap (fun event => event.departure.bind (inPhase phase)) =
      callsFrom phase trace := by
  refine List.filterMap_congr fun event _ => ?_
  cases event with
  | pipeline event =>
    cases event with
    | returned worker packet => exact if_neg done.symm
    | threw worker packet => exact if_neg threw.symm
    | _ => rfl
  | rejectionObserved worker packet => exact if_neg rejected.symm
  | _ => rfl

/-- A phase that is left one way. -/
theorem callsFrom_eq {left reached : Phase}
    (same : ∀ call : CallEvent, call.origin = left ↔ call.target = reached)
    (trace : List Event) : callsFrom left trace = callsTo reached trace := by
  refine List.filterMap_congr fun event _ => ?_
  cases event with
  | sample worker packet call => exact if_congr (same call) rfl rfl
  | _ => rfl

/-- A phase that is left two ways. -/
theorem callsFrom_eq_add {left reached reached' : Phase} (ne : reached ≠ reached')
    (ways : ∀ call : CallEvent, call.origin = left ↔
      call.target = reached ∨ call.target = reached') (trace : List Event) :
    (callsFrom left trace : Multiset ReceivedPacket) =
      callsTo reached trace + callsTo reached' trace := by
  refine coe_filterMap_add _ _ _ (fun event => ?_) trace
  cases event with
  | sample worker packet call =>
    by_cases hreached : call.target = reached
    · have hother : ¬ call.target = reached' := fun h => ne (hreached.symm.trans h)
      refine Or.inl ⟨?_, if_neg hother⟩
      exact if_congr ((ways call).trans (or_iff_left hother)) rfl rfl
    · refine Or.inr ⟨?_, if_neg hreached⟩
      exact if_congr ((ways call).trans (or_iff_right hreached)) rfl rfl
  | _ => exact Or.inl ⟨rfl, rfl⟩

/-- Where the packets went, once every worker has exited. -/
structure Settled (trace : List Event) : Prop where
  examined : (callsTo .examined trace : Multiset ReceivedPacket) =
    callsTo .rejected trace + callsTo .decoded trace
  counted : (callsTo .decoded trace : Multiset ReceivedPacket) = callsTo .counted trace
  handling : (callsTo .counted trace : Multiset ReceivedPacket) = callsTo .handling trace
  ended : (callsTo .handling trace : Multiset ReceivedPacket) =
    callsTo .done trace + callsTo .threw trace
  reported : (callsTo .rejected trace : Multiset ReceivedPacket) =
    issuePackets .kPayloadRejected (healthEvents trace)
  returned : (callsTo .done trace + issuePackets .kPayloadRejected (healthEvents trace) :
      Multiset ReceivedPacket) = returnedPackets (pipelineEvents trace)
  threw : (callsTo .threw trace : Multiset ReceivedPacket) = threwPackets (pipelineEvents trace)

/-- **Every packet a worker took went all the way.** -/
theorem settled (run : (system config).Reaches trace state)
    (exited : ∀ worker ∈ state.pipeline.workers, worker = .exited) : Settled trace := by
  have hclosed := arrivals_eq_departures run exited
  -- a phase inside a call is left as it is entered, by events of the call
  have inside {phase : Phase} (entered : phase ≠ .entered) (done : phase ≠ .done)
      (threw : phase ≠ .threw) (rejected : phase ≠ .rejected) :
      (callsTo phase trace : Multiset ReceivedPacket) = callsFrom phase trace := by
    have h := hclosed phase
    rwa [arrivals_eq_callsTo entered done, departures_eq_callsFrom done threw rejected] at h
  have hreported : issuePackets .kPayloadRejected (healthEvents trace) =
      trace.filterMap fun event => event.departure.bind (inPhase .rejected) := by
    rw [issuePackets, healthEvents, List.filterMap_filterMap]
    refine List.filterMap_congr fun event _ => ?_
    cases event with
    | pipeline event => cases event <;> rfl
    | sample worker packet call => cases call <;> rfl
    | _ => rfl
  have hreturned : returnedPackets (pipelineEvents trace) =
      trace.filterMap fun event => event.departure.bind (inPhase .done) := by
    rw [returnedPackets, pipelineEvents, List.filterMap_filterMap]
    refine List.filterMap_congr fun event _ => ?_
    cases event with
    | pipeline event => cases event <;> rfl
    | sample worker packet call => cases call <;> rfl
    | _ => rfl
  have hthrew : threwPackets (pipelineEvents trace) =
      trace.filterMap fun event => event.departure.bind (inPhase .threw) := by
    rw [threwPackets, pipelineEvents, List.filterMap_filterMap]
    refine List.filterMap_congr fun event _ => ?_
    cases event with
    | pipeline event => cases event <;> rfl
    | sample worker packet call => cases call <;> rfl
    | _ => rfl
  constructor
  · rw [inside (by decide) (by decide) (by decide) (by decide)]
    refine callsFrom_eq_add (by decide) (fun call => ?_) trace
    cases call <;> simp [CallEvent.origin, CallEvent.target]
  · rw [inside (by decide) (by decide) (by decide) (by decide)]
    refine congrArg _ (callsFrom_eq (fun call => ?_) trace)
    cases call <;> simp [CallEvent.origin, CallEvent.target]
  · rw [inside (by decide) (by decide) (by decide) (by decide)]
    refine congrArg _ (callsFrom_eq (fun call => ?_) trace)
    cases call <;> simp [CallEvent.origin, CallEvent.target]
  · rw [inside (by decide) (by decide) (by decide) (by decide)]
    refine callsFrom_eq_add (by decide) (fun call => ?_) trace
    cases call <;> simp [CallEvent.origin, CallEvent.target]
  · rw [hreported, ← hclosed, arrivals_eq_callsTo (by decide) (by decide)]
  · rw [hreturned, ← hclosed, issuePackets, healthEvents, List.filterMap_filterMap]
    symm
    refine coe_filterMap_add _ _ _ (fun event => ?_) trace
    cases event with
    | pipeline event => cases event <;> exact Or.inl ⟨rfl, rfl⟩
    | sample worker packet call => cases call <;> exact Or.inl ⟨rfl, rfl⟩
    | rejectionObserved worker packet => exact Or.inr ⟨rfl, rfl⟩
    | _ => exact Or.inl ⟨rfl, rfl⟩
  · rw [hthrew, ← hclosed, arrivals_eq_callsTo (by decide) (by decide)]

end Reached

/-! ## The ledger -/

/-- What the summary of a run says about the history of the run. -/
structure Ledger (config : RuntimeConfig) (trace : List Event) (summary : RuntimeSummary) :
    Prop where
  received : summary.packetsReceived.toNat = (consideredPackets trace).length
  observed : summary.streamMetrics.packetsObserved = summary.packetsReceived
  submitted : summary.packetsReceived.toNat =
    summary.pipelineMetrics.packetsSubmitted.toNat +
      summary.pipelineMetrics.packetsDroppedQueueFull.toNat
  rejectedStopped : summary.pipelineMetrics.packetsRejectedStopped = 0
  finished : summary.pipelineMetrics.packetsSubmitted.toNat =
    summary.pipelineMetrics.packetsProcessed.toNat +
      summary.pipelineMetrics.handlerFailures.toNat
  examined : summary.sampleMetrics.packetsExamined = summary.pipelineMetrics.packetsSubmitted
  outcomes : summary.sampleMetrics.packetsExamined.toNat =
    summary.sampleMetrics.samplesDecoded.toNat + summary.sampleMetrics.payloadsRejected.toNat
  types : summary.sampleMetrics.samplesDecoded.toNat =
    summary.sampleMetrics.imuSamples.toNat + summary.sampleMetrics.gnssSamples.toNat +
      summary.sampleMetrics.cameraMetaSamples.toNat
  invocations : summary.sampleMetrics.samplesDecoded.toNat = (handlerInvocations trace).length
  failures : summary.pipelineMetrics.handlerFailures.toNat = (handlerFailures trace).length
  limit : ∀ packetCount, config.packetCount = some packetCount →
    summary.packetsReceived ≤ packetCount
  /-- The snapshot of an admitted source counts the packets of the source that were considered,
  that were refused because the queue was full, and that were accepted but do not decode. -/
  sources : ∀ source ∈ admittedSources { maxSources := config.health.maxSources }
      (consideredPackets trace),
    let about (packet : ReceivedPacket) : Bool := identifySensorSource packet = source
    ∃ snapshot ∈ summary.sourceHealth, snapshot.source = source ∧
      (∀ other ∈ summary.sourceHealth, other.source = source → other = snapshot) ∧
      snapshot.packetsReceived.toNat = (consideredPackets trace).countP about ∧
      snapshot.packetsDroppedQueueFull.toNat =
        (submittedPackets .kQueueFull (pipelineEvents trace)).countP about ∧
      snapshot.payloadsRejected.toNat =
        (acceptedPackets (pipelineEvents trace)).countP fun packet =>
          about packet && !payloadDecodes packet

/-- How many packets there were of each kind, once every account is closed. -/
structure Closed (trace : List Event) : Prop where
  considered : (consideredPackets trace).length =
    (acceptedPackets (pipelineEvents trace)).length +
      (submittedPackets .kQueueFull (pipelineEvents trace)).length
  accepted : (acceptedPackets (pipelineEvents trace) : Multiset ReceivedPacket) =
    callsTo .rejected trace + callsTo .decoded trace
  finished : (acceptedPackets (pipelineEvents trace)).length =
    (returnedPackets (pipelineEvents trace)).length +
      (threwPackets (pipelineEvents trace)).length
  dropped : submittedPackets .kQueueFull (pipelineEvents trace) =
    issuePackets .kQueueDropped (healthEvents trace)

section Collected

variable {config : RuntimeConfig} {trace : List Event} {state : State}
  {timestamp : BitVec 64} {metrics : WorkerPipelineMetrics}

/-- **When `stop` has returned, the accounts close.** -/
theorem closed (run : (system config).Reaches trace state)
    (stands : state.stage = .collecting timestamp metrics) :
    Closed trace ∧ Settled trace ∧ state.pipeline.metrics = metrics := by
  obtain ⟨hconsidered, hguarded⟩ := reaches_considered run
  obtain ⟨hexited, hmetrics⟩ := hguarded.collected _ _ stands
  obtain ⟨haccounted, hdraining⟩ := WorkerPipeline.reaches_invariant (reaches_pipeline run)
  have hsettled := settled run hexited
  -- there is a worker, it has exited, so the queue is empty
  obtain ⟨_, _, _, _, _, hmake, _⟩ := run.exists_initial
  have hworkers := (WorkerPipeline.make_eq_ok hmake).1
  obtain ⟨worker, hmem⟩ : ∃ worker, worker ∈ state.pipeline.workers := by
    refine List.exists_mem_of_length_pos ?_
    rw [hdraining.workerCount]
    exact Nat.pos_of_ne_zero hworkers
  have hqueue := (hdraining.drained worker hmem (hexited worker hmem)).2
  have hheld : state.pipeline.heldPackets = [] := by
    refine WorkerPipeline.heldPackets_eq_nil fun worker hmem => ?_
    rw [hexited worker hmem]
    rfl
  have hconserved := haccounted.conserved
  rw [hqueue, hheld, Multiset.coe_nil, zero_add, zero_add] at hconserved
  refine ⟨⟨?_, ?_, ?_, ?_⟩, hsettled, hmetrics⟩
  · have hpending : state.stage.pending = [] := by rw [stands]; rfl
    have hcard := congrArg Multiset.card hconsidered.submitted
    rw [hpending] at hcard
    simpa only [Multiset.coe_card, Multiset.card_add, List.length_nil, Nat.add_zero] using hcard
  · calc (acceptedPackets (pipelineEvents trace) : Multiset ReceivedPacket)
        = returnedPackets (pipelineEvents trace) + threwPackets (pipelineEvents trace) :=
          hconserved
      _ = callsTo .done trace + issuePackets .kPayloadRejected (healthEvents trace) +
            callsTo .threw trace := by rw [← hsettled.returned, ← hsettled.threw]
      _ = callsTo .rejected trace + (callsTo .done trace + callsTo .threw trace) := by
          rw [← hsettled.reported]
          abel
      _ = callsTo .rejected trace + callsTo .decoded trace := by
          rw [← hsettled.ended, ← hsettled.handling, ← hsettled.counted]
  · have hcard := congrArg Multiset.card hconserved
    simpa only [Multiset.coe_card, Multiset.card_add] using hcard
  · have hunreported : state.stage.unreported = [] := by rw [stands]; rfl
    have hreported := hconsidered.reported
    rwa [hunreported, List.append_nil] at hreported

/-- The undecodable ones among the accepted packets are the rejected ones. -/
theorem countP_undecodable (run : (system config).Reaches trace state)
    (accepted : (acceptedPackets (pipelineEvents trace) : Multiset ReceivedPacket) =
      callsTo .rejected trace + callsTo .decoded trace)
    (about : ReceivedPacket → Bool) :
    ((acceptedPackets (pipelineEvents trace)).countP fun packet =>
        about packet && !payloadDecodes packet) =
      (callsTo .rejected trace).countP about := by
  have hcalls {phase : Phase} {packet : ReceivedPacket} (hmem : packet ∈ callsTo phase trace) :
      ∃ call : CallEvent, call.target = phase ∧ call.Says packet := by
    obtain ⟨event, hevent, hpacket⟩ := List.mem_filterMap.mp hmem
    cases event with
    | sample worker other call =>
      dsimp only at hpacket
      split at hpacket
      next hphase =>
        cases hpacket
        exact ⟨call, hphase, says_of_mem run _ hevent _ _ _ rfl⟩
      next => cases hpacket
    | _ => cases hpacket
  have hrejected : (callsTo .rejected trace).countP (fun packet =>
      about packet && !payloadDecodes packet) = (callsTo .rejected trace).countP about := by
    refine List.countP_congr fun packet hmem => ?_
    obtain ⟨call, htarget, hsays⟩ := hcalls hmem
    cases call with
    | rejected =>
      have hnot : payloadDecodes packet = false := hsays
      rw [hnot, Bool.not_false, Bool.and_true]
    | _ => cases htarget
  have hdecoded : (callsTo .decoded trace).countP (fun packet =>
      about packet && !payloadDecodes packet) = 0 := by
    refine List.countP_eq_zero.mpr fun packet hmem => ?_
    obtain ⟨call, htarget, hsays⟩ := hcalls hmem
    cases call with
    | decoded =>
      have hyes : payloadDecodes packet = true := hsays
      rw [hyes, Bool.not_true, Bool.and_false]
      exact Bool.false_ne_true
    | _ => cases htarget
  have hperm : (acceptedPackets (pipelineEvents trace)).Perm
      (callsTo .rejected trace ++ callsTo .decoded trace) := Multiset.coe_eq_coe.mp accepted
  rw [hperm.countP_eq, List.countP_append, hrejected, hdecoded, Nat.add_zero]

/-- What the monitor says of one source, once every account is closed: fewer than `2 ^ 64` packets
were considered, so no counter is saturated. -/
theorem reported_source (run : (system config).Reaches trace state) {monitor : SourceHealthMonitor}
    (made : SourceHealthMonitor.make config.health = .ok monitor) (closed : Closed trace)
    (settled : Settled trace) (fewer : (consideredPackets trace).length < 2 ^ 64)
    (nowTimestampNs : BitVec 64) {source : SensorSource}
    (isAdmitted : source ∈ admittedSources { maxSources := config.health.maxSources }
      (consideredPackets trace)) :
    let report := state.healthMonitor.report nowTimestampNs
    let about (packet : ReceivedPacket) : Bool := identifySensorSource packet = source
    ∃ snapshot ∈ report.sources, snapshot.source = source ∧
      (∀ other ∈ report.sources, other.source = source → other = snapshot) ∧
      snapshot.packetsReceived.toNat = (consideredPackets trace).countP about ∧
      snapshot.packetsDroppedQueueFull.toNat =
        (submittedPackets .kQueueFull (pipelineEvents trace)).countP about ∧
      snapshot.payloadsRejected.toNat =
        (acceptedPackets (pipelineEvents trace)).countP fun packet =>
          about packet && !payloadDecodes packet := by
  intro report about
  have hsource : source ∈ admitted config.health.maxSources
      (packetSources (healthEvents trace)) := by
    rw [← map_observedPackets, observedPackets_healthEvents]
    exact isAdmitted
  obtain ⟨snapshot, hmem, hname, honly, hreceivedBy, hdroppedBy, hrejectedBy⟩ :=
    report_counters made (heralded run) nowTimestampNs hsource
  rw [← healthMonitor_eq made run] at hmem honly
  have hconsidered := closed.considered
  have haccepted : (acceptedPackets (pipelineEvents trace)).length =
      (callsTo .rejected trace).length + (callsTo .decoded trace).length := by
    simpa only [Multiset.coe_card, Multiset.card_add] using
      congrArg Multiset.card closed.accepted
  have hreported := Multiset.coe_eq_coe.mp settled.reported
  have hfits {packets : List ReceivedPacket}
      (h : packets.length ≤ (consideredPackets trace).length) :
      min (packets.countP about) (2 ^ 64 - 1) = packets.countP about := by
    have hcount : packets.countP about ≤ packets.length := List.countP_le_length
    omega
  refine ⟨snapshot, hmem, hname, honly, ?_, ?_, ?_⟩
  · rw [hreceivedBy, observedPackets_healthEvents, hfits (Nat.le_refl _)]
  · rw [hdroppedBy, ← closed.dropped, hfits (by omega)]
  · rw [hrejectedBy, countP_undecodable run closed.accepted, hreported.countP_eq, hfits]
    rw [← hreported.length_eq]
    omega

end Collected

/-- The handler is invoked by the calls that come to it. -/
theorem length_handlerInvocations (trace : List Event) :
    (handlerInvocations trace).length = (callsTo .handling trace).length := by
  rw [handlerInvocations, callsTo, List.length_filterMap_eq_countP,
    List.length_filterMap_eq_countP]
  refine List.countP_congr fun event _ => ?_
  cases event with
  | sample worker packet call => cases call <;> exact Iff.rfl
  | _ => exact Iff.rfl

/-- Once the accounts are closed, the sample counters are those of the samples handed out and of the
accepted packets whose payload does not decode. -/
theorem sampleMetrics_closed {config : RuntimeConfig} {trace : List Event} {state : State}
    (run : (system config).Reaches trace state) (closed : Closed trace) (settled : Settled trace) :
    state.sampleMetrics.samplesDecoded = BitVec.ofNat 64 (handlerInvocations trace).length ∧
      state.sampleMetrics.payloadsRejected = BitVec.ofNat 64
        ((acceptedPackets (pipelineEvents trace)).countP fun packet => !payloadDecodes packet) := by
  have htallied := sampleMetrics_tallied run
  constructor
  · have hcounted := (Multiset.coe_eq_coe.mp settled.counted).length_eq
    have hhandling := (Multiset.coe_eq_coe.mp settled.handling).length_eq
    rw [htallied.decoded, ← length_callsTo, hcounted, hhandling, length_handlerInvocations]
  · have hundecodable := countP_undecodable run closed.accepted fun _ => true
    simp only [Bool.true_and, List.countP_true] at hundecodable
    rw [htallied.rejected, ← length_callsTo, hundecodable]

private theorem handlerFailures_eq (trace : List Event) :
    handlerFailures trace = callsTo .threw trace := by
  refine List.filterMap_congr fun event _ => ?_
  cases event with
  | sample worker packet call => cases call <;> rfl
  | _ => rfl

/-- **The cross-module ledger of a run.** Under every schedule, with every input and every sample
handler, the summary that a run returns agrees with the history of the run: fewer than `2 ^ 64`
packets were considered. -/
theorem run_ledger (config : RuntimeConfig) (trace : List Event) (summary : RuntimeSummary)
    (state : State) (run : (system config).Reaches (trace ++ [.returned summary]) state)
    (fewer : (consideredPackets trace).length < 2 ^ 64) : Ledger config trace summary := by
  obtain ⟨earlier, hearlier, action, hperform⟩ := run.last
  obtain ⟨_, healthMonitor, _, _, hmade, _⟩ := hearlier.exists_initial
  cases transition_of_perform hperform with
  | returned timestamp metrics stands =>
    obtain ⟨hclosed, hsettled, rfl⟩ := closed hearlier stands
    obtain ⟨hconsidered, hguarded⟩ := reaches_considered hearlier
    have haccounted := (WorkerPipeline.reaches_invariant (reaches_pipeline hearlier)).1
    have htallied := sampleMetrics_tallied hearlier
    have hmonitor := healthMonitor_eq hmade hearlier
    -- every count is at most the number of packets considered, so no counter has wrapped
    have hexact {count : Nat} (h : count ≤ (consideredPackets trace).length) :
        (BitVec.ofNat 64 count).toNat = count :=
      Nat.mod_eq_of_lt (Nat.lt_of_le_of_lt h fewer)
    have hcard {list list' list'' : List ReceivedPacket}
        (h : (list : Multiset ReceivedPacket) = list' + list'') :
        list.length = list'.length + list''.length := by
      simpa only [Multiset.coe_card, Multiset.card_add] using congrArg Multiset.card h
    have hsame {list list' : List ReceivedPacket} (h : (list : Multiset ReceivedPacket) = list') :
        list.length = list'.length := (Multiset.coe_eq_coe.mp h).length_eq
    have hconsideredCard := hclosed.considered
    have hfinished := hclosed.finished
    have haccepted := hcard hclosed.accepted
    have hcounted := hsame hsettled.counted
    have hhandling := hsame hsettled.handling
    have hended := hcard hsettled.ended
    have hexamined := hcard hsettled.examined
    have hthrew := hsame hsettled.threw
    have htypes := SensorSampleProcessor.countP_counted (callEvents trace)
    rw [← length_callsTo] at htypes
    have hreceived : earlier.packetsReceived =
        BitVec.ofNat 64 (consideredPackets trace).length := by
      have huncounted : earlier.stage.uncounted = 0 := by rw [stands]; rfl
      rw [hconsidered.received, hconsidered.counted, huncounted, Nat.add_zero]
    have hphase {counter : BitVec 64} {phase : Phase}
        (h : counter = BitVec.ofNat 64
          ((callEvents trace).countP fun event => event.target = phase))
        (hle : (callsTo phase trace).length ≤ (consideredPackets trace).length) :
        counter.toNat = (callsTo phase trace).length := by
      rw [h, ← length_callsTo, hexact hle]
    have hpackets : earlier.packetsReceived.toNat = (consideredPackets trace).length := by
      rw [hreceived, hexact (Nat.le_refl _)]
    have hsubmitted : earlier.pipeline.metrics.packetsSubmitted.toNat =
        (acceptedPackets (pipelineEvents trace)).length := by
      rw [haccounted.submitted, hexact (by omega)]
    have hfailures : earlier.pipeline.metrics.handlerFailures.toNat =
        (threwPackets (pipelineEvents trace)).length := by
      rw [haccounted.failures, hexact (by omega)]
    have hcalls := hphase htallied.examined (by omega)
    have hdecodes := hphase htallied.decoded (by omega)
    constructor
    · exact hpackets
    · change earlier.healthMonitor.streamTracker.metrics.packetsObserved = earlier.packetsReceived
      rw [hmonitor, runEvents_packetsObserved hmade, observedPackets_healthEvents, hreceived]
    · change earlier.packetsReceived.toNat =
        _ + earlier.pipeline.metrics.packetsDroppedQueueFull.toNat
      rw [hpackets, haccounted.dropped, hexact (by omega)]
      exact hconsideredCard.trans (congrArg (· + _) hsubmitted.symm)
    · change earlier.pipeline.metrics.packetsRejectedStopped = 0
      rw [haccounted.rejected, hconsidered.unstopped]
      rfl
    · refine hsubmitted.trans (hfinished.trans ?_)
      refine congrArg₂ (· + ·) ?_ hfailures.symm
      change _ = earlier.pipeline.metrics.packetsProcessed.toNat
      rw [haccounted.processed, hexact (by omega)]
    · refine BitVec.eq_of_toNat_eq (hcalls.trans (Eq.trans ?_ hsubmitted.symm))
      omega
    · refine hcalls.trans (hexamined.trans ?_)
      rw [Nat.add_comm]
      exact congrArg₂ (· + ·) hdecodes.symm (hphase htallied.rejected (by omega)).symm
    · refine hdecodes.trans (hcounted.trans (htypes.trans ?_))
      have htype {counter : BitVec 64} {type : MessageType}
          (h : counter = BitVec.ofNat 64 ((callEvents trace).countP (CallEvent.counts type)))
          (hle : (callEvents trace).countP (CallEvent.counts type) ≤
            (consideredPackets trace).length) :
          (callEvents trace).countP (CallEvent.counts type) = counter.toNat := by
        rw [h, hexact hle]
      refine congrArg₂ (· + ·) (congrArg₂ (· + ·) ?_ ?_) ?_
      · exact htype htallied.imu (by omega)
      · exact htype htallied.gnss (by omega)
      · exact htype htallied.camera (by omega)
    · rw [length_handlerInvocations, ← hhandling, ← hcounted]
      exact hdecodes
    · rw [handlerFailures_eq, hthrew]
      exact hfailures
    · intro packetCount hcount
      exact (hguarded.within packetCount hcount).1
    · intro source hadmitted
      exact reported_source hearlier hmade hclosed hsettled fewer timestamp hadmitted

/-- A schedule that ends in collecting is a run that returns. -/
theorem returns_of_performAll {config : RuntimeConfig} {start : State} {actions : List Action}
    {packets : List ReceivedPacket} {timestamp : BitVec 64} {metrics : WorkerPipelineMetrics}
    (starts : (system config).initial start)
    (h : ((performAll perform start actions).map fun result =>
      (consideredPackets result.2, result.1.stage)) = some (packets, .collecting timestamp metrics)) :
    ∃ trace summary state, (system config).Reaches (trace ++ [.returned summary]) state ∧
      consideredPackets trace = packets := by
  obtain ⟨⟨earlier, trace⟩, hactions, hresult⟩ := Option.map_eq_some_iff.mp h
  obtain ⟨hconsidered, hstage⟩ := Prod.mk.inj hresult
  dsimp only at hstage
  have hrun := (System.Reaches.start starts).performAll (fun _ action _ _ h => ⟨action, h⟩) _
    hactions
  have hsummarise : perform earlier .summarise = some ({ earlier with stage := .returned },
      .returned (summarise earlier timestamp metrics)) := by
    simp only [perform, hstage]
  exact ⟨trace, _, _, hrun.next ⟨_, hsummarise⟩, hconsidered⟩

/-- A packet whose payload is a camera frame. -/
def cameraPacket : ReceivedPacket :=
  { packet :=
      { header := { messageType := .kCameraMeta }
        payload := [0, 0, 0, 0, 0, 0, 0, 1, 0, 0, 0, 2, 0, 0, 0, 3, 0, 0, 0, 4, 0, 0, 0, 0] } }

/-- The state in which a run with the default health configuration starts. -/
def startState (config : RuntimeConfig) : State :=
  { config
    healthMonitor := { config := {}, streamTracker := { config := { maxSources := 256 } } }
    pipeline := { config := config.pipeline } }

/-- One worker, a queue of one: of three packets the first does not decode, the second meets a full
queue, and the handler throws on the third, during the drain. -/
theorem run_ledger_drain :
    ∃ trace summary state,
      (system { pipeline := { workerCount := 1, queueCapacity := 1 }
                packetCount := some 3 }).Reaches (trace ++ [.returned summary]) state ∧
      consideredPackets trace = [{}, cameraPacket, cameraPacket] ∧
      Ledger { pipeline := { workerCount := 1, queueCapacity := 1 }, packetCount := some 3 }
        trace summary := by
  let config : RuntimeConfig :=
    { pipeline := { workerCount := 1, queueCapacity := 1 }, packetCount := some 3 }
  let actions : List Action :=
    [.askStop false, .poll [{}, cameraPacket, cameraPacket] {},
      .askStop false, .observePacket, .trySubmit, .countPacket,
      .askStop false, .observePacket, .trySubmit, .observeQueueDrop, .countPacket,
      .acquire 0, .advance 0 false, .advance 0 false, .observeRejection 0, .finish 0,
      .askStop false, .observePacket, .trySubmit, .countPacket,
      .askStop false, .readClock 5, .lockLifecycle, .requestStop,
      .acquire 0, .advance 0 false, .advance 0 false, .advance 0 false, .advance 0 false,
      .advance 0 true, .finish 0, .acquire 0, .returnStop]
  have hschedule : ((performAll perform (startState config) actions).map fun result =>
      (consideredPackets result.2, result.1.stage)) =
      some ([{}, cameraPacket, cameraPacket],
        .collecting 5
          { packetsSubmitted := 2, packetsProcessed := 1, packetsDroppedQueueFull := 1,
            handlerFailures := 1, queueHighWatermark := 1 }) := by
    decide +kernel
  obtain ⟨trace, summary, state, hrun, hconsidered⟩ :=
    returns_of_performAll ⟨_, _, _, rfl, rfl, rfl⟩ hschedule
  refine ⟨trace, summary, state, hrun, hconsidered, run_ledger config trace summary state hrun ?_⟩
  rw [hconsidered]
  decide

end Run

end Driveflow.Runtime

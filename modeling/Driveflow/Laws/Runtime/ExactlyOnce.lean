import Driveflow.Runtime.WorkerPipeline

/-!
# Exactly-once processing

Where every accepted packet is, in every interleaving: in the queue, with a worker, or finished,
once. `Transition` lists what one step can do, with its guards; `Accounted` says where the packets
are and that the counters count them; `Draining` says what a shutdown has reached. Both are kept by
every step, and `Quiescent`, the state in which a `stop` returns, is never left again.
-/

namespace Driveflow.Runtime

open Library

namespace WorkerPipeline

/-! ## What a history saw -/

/-- The packets that were accepted, in order. -/
def acceptedPackets (trace : List Event) : List ReceivedPacket :=
  trace.filterMap fun
    | .submitted packet .kAccepted => some packet
    | _ => none

/-- The packets whose processor call returned. -/
def returnedPackets (trace : List Event) : List ReceivedPacket :=
  trace.filterMap fun
    | .returned _ packet => some packet
    | _ => none

/-- The packets whose processor call threw. -/
def threwPackets (trace : List Event) : List ReceivedPacket :=
  trace.filterMap fun
    | .threw _ packet => some packet
    | _ => none

/-- What a worker holds. -/
def Worker.held : Worker → Option ReceivedPacket
  | .processing packet => some packet
  | _ => none

/-- The packets the workers hold. -/
def heldPackets (pipeline : WorkerPipeline) : List ReceivedPacket :=
  pipeline.workers.filterMap Worker.held

/-! ## What one step can do -/

/-- The steps, with their guards. -/
inductive Transition (pipeline : WorkerPipeline) : Event → WorkerPipeline → Prop where
  | rejected (packet) (closed : pipeline.accepting = false) :
    Transition pipeline (.submitted packet .kStopped)
      { pipeline with
        metrics := { pipeline.metrics with
          packetsRejectedStopped := pipeline.metrics.packetsRejectedStopped + 1 } }
  | dropped (packet) (opened : pipeline.accepting = true)
    (full : pipeline.config.queueCapacity ≤ pipeline.queue.length) :
    Transition pipeline (.submitted packet .kQueueFull)
      { pipeline with
        metrics := { pipeline.metrics with
          packetsDroppedQueueFull := pipeline.metrics.packetsDroppedQueueFull + 1 } }
  | accepted (packet) (opened : pipeline.accepting = true)
    (room : pipeline.queue.length < pipeline.config.queueCapacity) :
    Transition pipeline (.submitted packet .kAccepted)
      { pipeline with
        queue := pipeline.queue ++ [packet]
        metrics := { pipeline.metrics with
          packetsSubmitted := pipeline.metrics.packetsSubmitted + 1
          queueHighWatermark :=
            max pipeline.metrics.queueHighWatermark (pipeline.queue ++ [packet]).length } }
  | took (worker packet rest) (idle : pipeline.workers[worker]? = some .waiting)
    (front : pipeline.queue = packet :: rest) :
    Transition pipeline (.took worker packet)
      { pipeline with
        queue := rest, workers := pipeline.workers.set worker (.processing packet) }
  | exited (worker) (idle : pipeline.workers[worker]? = some .waiting)
    (drained : pipeline.queue = []) (requested : pipeline.stopRequested = true) :
    Transition pipeline (.exited worker)
      { pipeline with workers := pipeline.workers.set worker .exited }
  | returned (worker packet) (busy : pipeline.workers[worker]? = some (.processing packet)) :
    Transition pipeline (.returned worker packet)
      { pipeline with
        workers := pipeline.workers.set worker .waiting
        metrics := { pipeline.metrics with
          packetsProcessed := pipeline.metrics.packetsProcessed + 1 } }
  | threw (worker packet) (busy : pipeline.workers[worker]? = some (.processing packet)) :
    Transition pipeline (.threw worker packet)
      { pipeline with
        workers := pipeline.workers.set worker .waiting
        metrics := { pipeline.metrics with
          handlerFailures := pipeline.metrics.handlerFailures + 1 } }
  | stopBegun (free : pipeline.lifecycle = .free) :
    Transition pipeline .stopBegun { pipeline with lifecycle := .locked }
  | stopRequested (locked : pipeline.lifecycle = .locked) :
    Transition pipeline .stopRequested
      { pipeline with accepting := false, stopRequested := true, lifecycle := .joining }
  | stopReturned (joining : pipeline.lifecycle = .joining)
    (joined : ∀ worker ∈ pipeline.workers, worker = .exited) :
    Transition pipeline (.stopReturned pipeline.metrics) { pipeline with lifecycle := .free }

/-- Every step is one of these. -/
theorem transition_of_perform {pipeline next : WorkerPipeline} {action : Action} {event : Event}
    (h : pipeline.perform action = some (next, event)) : Transition pipeline event next := by
  cases action with
  | trySubmit packet =>
    unfold perform trySubmit at h
    dsimp only at h
    by_cases hopen : pipeline.accepting = true
    · have hopened : ¬ (!pipeline.accepting) = true := by rw [hopen]; decide
      by_cases hfull : pipeline.queue.length ≥ pipeline.config.queueCapacity
      · rw [if_neg hopened, if_pos hfull] at h
        cases h
        exact .dropped packet hopen hfull
      · rw [if_neg hopened, if_neg hfull] at h
        cases h
        exact .accepted packet hopen (Nat.lt_of_not_le hfull)
    · have hclosed : pipeline.accepting = false := Bool.eq_false_iff.mpr hopen
      rw [if_pos (by rw [hclosed]; rfl)] at h
      cases h
      exact .rejected packet hclosed
  | acquire worker =>
    simp only [perform, acquire] at h
    split at h
    next hidle =>
      split at h
      next hqueue =>
        split at h
        next hrequested =>
          cases h
          exact .exited worker hidle hqueue hrequested
        next => cases h
      next packet rest hqueue =>
        cases h
        exact .took worker packet rest hidle hqueue
    next => cases h
  | finish worker throws =>
    simp only [perform, finish] at h
    split at h
    next packet hbusy =>
      cases throws with
      | true =>
        cases h
        exact .threw worker packet hbusy
      | false =>
        cases h
        exact .returned worker packet hbusy
    next => cases h
  | lockLifecycle =>
    simp only [perform] at h
    split at h
    next hfree =>
      cases h
      exact .stopBegun hfree
    next => cases h
  | requestStop =>
    simp only [perform] at h
    split at h
    next hlocked =>
      cases h
      exact .stopRequested hlocked
    next => cases h
  | returnStop =>
    simp only [perform] at h
    split at h
    next hjoined =>
      cases h
      refine .stopReturned hjoined.1 fun worker hmem => ?_
      exact of_decide_eq_true (List.all_eq_true.mp hjoined.2 worker hmem)
    next => cases h

/-- No transition changes the configuration. -/
theorem Transition.config_eq {pipeline next : WorkerPipeline} {event : Event}
    (h : Transition pipeline event next) : next.config = pipeline.config := by
  cases h <;> rfl

/-- Only a requested stop closes the pipeline. -/
theorem Transition.accepting_eq {pipeline next : WorkerPipeline} {event : Event}
    (h : Transition pipeline event next) (open_ : event ≠ .stopRequested) :
    next.accepting = pipeline.accepting := by
  cases h with
  | stopRequested => exact absurd rfl open_
  | _ => rfl

/-! ## Where the packets are -/

/-- The packets whose submission had a result. -/
def submittedPackets (result : SubmitResult) (trace : List Event) : List ReceivedPacket :=
  trace.filterMap fun
    | .submitted packet result' => if result' = result then some packet else none
    | _ => none

/-- Every accepted packet is in one place, and the counters count them. -/
structure Accounted (trace : List Event) (pipeline : WorkerPipeline) : Prop where
  conserved : (acceptedPackets trace : Multiset ReceivedPacket) =
    pipeline.queue + pipeline.heldPackets + returnedPackets trace + threwPackets trace
  submitted : pipeline.metrics.packetsSubmitted = BitVec.ofNat 64 (acceptedPackets trace).length
  processed : pipeline.metrics.packetsProcessed = BitVec.ofNat 64 (returnedPackets trace).length
  failures : pipeline.metrics.handlerFailures = BitVec.ofNat 64 (threwPackets trace).length
  dropped : pipeline.metrics.packetsDroppedQueueFull =
    BitVec.ofNat 64 (submittedPackets .kQueueFull trace).length
  rejected : pipeline.metrics.packetsRejectedStopped =
    BitVec.ofNat 64 (submittedPackets .kStopped trace).length

/-- What a worker held before and holds after its step changes hands. -/
private theorem heldPackets_set {pipeline : WorkerPipeline} {worker : Nat} {old : Worker}
    (h : pipeline.workers[worker]? = some old) (new : Worker) :
    (old.held.toList : Multiset ReceivedPacket) +
        ((pipeline.workers.set worker new).filterMap Worker.held : List ReceivedPacket) =
      (new.held.toList : Multiset ReceivedPacket) + pipeline.heldPackets :=
  Multiset.coe_eq_coe.mpr (filterMap_set_perm h Worker.held new)

/-- The packets accepted in two traces are those of one and then of the other. -/
theorem acceptedPackets_append (trace trace' : List Event) :
    acceptedPackets (trace ++ trace') = acceptedPackets trace ++ acceptedPackets trace' :=
  List.filterMap_append

/-- So are the packets whose call returned. -/
theorem returnedPackets_append (trace trace' : List Event) :
    returnedPackets (trace ++ trace') = returnedPackets trace ++ returnedPackets trace' :=
  List.filterMap_append

/-- So are the packets whose call threw. -/
theorem threwPackets_append (trace trace' : List Event) :
    threwPackets (trace ++ trace') = threwPackets trace ++ threwPackets trace' :=
  List.filterMap_append

/-- So are the packets submitted with one result. -/
theorem submittedPackets_append (result : SubmitResult) (trace trace' : List Event) :
    submittedPackets result (trace ++ trace') =
      submittedPackets result trace ++ submittedPackets result trace' :=
  List.filterMap_append

private theorem ofNat_length_append (packets packets' : List ReceivedPacket) :
    BitVec.ofNat 64 (packets ++ packets').length =
      BitVec.ofNat 64 packets.length + BitVec.ofNat 64 packets'.length := by
  rw [List.length_append, BitVec.ofNat_add]

/-- A step accounts for what it moves. -/
private theorem Accounted.move {trace : List Event} {pipeline next : WorkerPipeline}
    {event : Event} (h : Accounted trace pipeline)
    (moved : (pipeline.queue : Multiset ReceivedPacket) + pipeline.heldPackets +
        acceptedPackets [event] =
      next.queue + next.heldPackets + returnedPackets [event] + threwPackets [event])
    (submitted : next.metrics.packetsSubmitted =
      pipeline.metrics.packetsSubmitted + BitVec.ofNat 64 (acceptedPackets [event]).length)
    (processed : next.metrics.packetsProcessed =
      pipeline.metrics.packetsProcessed + BitVec.ofNat 64 (returnedPackets [event]).length)
    (failures : next.metrics.handlerFailures =
      pipeline.metrics.handlerFailures + BitVec.ofNat 64 (threwPackets [event]).length)
    (dropped : next.metrics.packetsDroppedQueueFull = pipeline.metrics.packetsDroppedQueueFull +
      BitVec.ofNat 64 (submittedPackets .kQueueFull [event]).length)
    (rejected : next.metrics.packetsRejectedStopped = pipeline.metrics.packetsRejectedStopped +
      BitVec.ofNat 64 (submittedPackets .kStopped [event]).length) :
    Accounted (trace ++ [event]) next := by
  constructor
  · rw [acceptedPackets_append, returnedPackets_append, threwPackets_append, ← Multiset.coe_add,
      ← Multiset.coe_add, ← Multiset.coe_add, h.conserved]
    calc (pipeline.queue : Multiset ReceivedPacket) + pipeline.heldPackets +
            returnedPackets trace + threwPackets trace + acceptedPackets [event]
        = (pipeline.queue + pipeline.heldPackets + acceptedPackets [event]) +
            returnedPackets trace + threwPackets trace := by abel
      _ = (next.queue + next.heldPackets + returnedPackets [event] + threwPackets [event]) +
            returnedPackets trace + threwPackets trace := by rw [moved]
      _ = _ := by abel
  · rw [acceptedPackets_append, ofNat_length_append, ← h.submitted, submitted]
  · rw [returnedPackets_append, ofNat_length_append, ← h.processed, processed]
  · rw [threwPackets_append, ofNat_length_append, ← h.failures, failures]
  · rw [submittedPackets_append, ofNat_length_append, ← h.dropped, dropped]
  · rw [submittedPackets_append, ofNat_length_append, ← h.rejected, rejected]

/-- **One step keeps every accepted packet accounted for.** -/
theorem Accounted.step {trace : List Event} {pipeline next : WorkerPipeline} {event : Event}
    (h : Accounted trace pipeline) (step : Transition pipeline event next) :
    Accounted (trace ++ [event]) next := by
  have same (x : BitVec 64) : x = x + BitVec.ofNat 64 0 := (BitVec.add_zero x).symm
  have nothing (x : Multiset ReceivedPacket) : x + 0 = x + 0 + 0 := (add_zero (x + 0)).symm
  cases step with
  | rejected packet closed =>
    exact h.move (nothing _) (same _) (same _) (same _) (same _) rfl
  | dropped packet opened full =>
    exact h.move (nothing _) (same _) (same _) (same _) rfl (same _)
  | accepted packet opened room =>
    refine h.move ?_ rfl (same _) (same _) (same _) (same _)
    change (pipeline.queue : Multiset ReceivedPacket) + pipeline.heldPackets + {packet} =
      (pipeline.queue ++ [packet] : List ReceivedPacket) + pipeline.heldPackets + 0 + 0
    rw [← Multiset.coe_add, Multiset.coe_singleton]
    abel
  | took worker packet rest idle front =>
    have hmoves := heldPackets_set idle (.processing packet)
    refine h.move ?_ (same _) (same _) (same _) (same _) (same _)
    change (pipeline.queue : Multiset ReceivedPacket) + pipeline.heldPackets + 0 =
      rest + ((pipeline.workers.set worker _).filterMap Worker.held : List ReceivedPacket) + 0 + 0
    change (0 : Multiset ReceivedPacket) + _ = {packet} + _ at hmoves
    rw [zero_add] at hmoves
    rw [hmoves, front, ← Multiset.cons_coe, ← Multiset.singleton_add]
    abel
  | exited worker idle drained requested =>
    have hmoves := heldPackets_set idle .exited
    refine h.move ?_ (same _) (same _) (same _) (same _) (same _)
    change (pipeline.queue : Multiset ReceivedPacket) + pipeline.heldPackets + 0 =
      pipeline.queue +
        ((pipeline.workers.set worker _).filterMap Worker.held : List ReceivedPacket) + 0 + 0
    change (0 : Multiset ReceivedPacket) + _ = 0 + _ at hmoves
    rw [zero_add, zero_add] at hmoves
    rw [hmoves, add_zero, add_zero]
  | returned worker packet busy =>
    have hmoves := heldPackets_set busy .waiting
    refine h.move ?_ (same _) rfl (same _) (same _) (same _)
    change (pipeline.queue : Multiset ReceivedPacket) + pipeline.heldPackets + 0 =
      pipeline.queue +
        ((pipeline.workers.set worker _).filterMap Worker.held : List ReceivedPacket) +
        {packet} + 0
    change ({packet} : Multiset ReceivedPacket) + _ = 0 + _ at hmoves
    rw [zero_add] at hmoves
    rw [← hmoves]
    abel
  | threw worker packet busy =>
    have hmoves := heldPackets_set busy .waiting
    refine h.move ?_ (same _) (same _) rfl (same _) (same _)
    change (pipeline.queue : Multiset ReceivedPacket) + pipeline.heldPackets + 0 =
      pipeline.queue +
        ((pipeline.workers.set worker _).filterMap Worker.held : List ReceivedPacket) + 0 +
        {packet}
    change ({packet} : Multiset ReceivedPacket) + _ = 0 + _ at hmoves
    rw [zero_add] at hmoves
    rw [← hmoves]
    abel
  | stopBegun free =>
    exact h.move (nothing _) (same _) (same _) (same _) (same _) (same _)
  | stopRequested locked =>
    exact h.move (nothing _) (same _) (same _) (same _) (same _) (same _)
  | stopReturned joining joined =>
    exact h.move (nothing _) (same _) (same _) (same _) (same _) (same _)

/-! ## The shutdown -/

/-- What a shutdown has reached: no worker leaves while accepted work can still exist. -/
structure Draining (config : WorkerPipelineConfig) (pipeline : WorkerPipeline) : Prop where
  config_eq : pipeline.config = config
  workerCount : pipeline.workers.length = config.workerCount
  accepting : pipeline.accepting = !pipeline.stopRequested
  drained : ∀ worker ∈ pipeline.workers, worker = .exited →
    pipeline.stopRequested = true ∧ pipeline.queue = []
  joining : pipeline.lifecycle = .joining → pipeline.stopRequested = true

/-- Every transition keeps what a shutdown has reached. A worker exits only after the stop request
and on an empty queue, and nothing is accepted from the request on. -/
theorem Draining.step {config : WorkerPipelineConfig} {pipeline next : WorkerPipeline}
    {event : Event} (h : Draining config pipeline) (step : Transition pipeline event next) :
    Draining config next := by
  obtain ⟨config_eq, workerCount, accepting, drained, joining⟩ := h
  cases step with
  | rejected packet closed => exact ⟨config_eq, workerCount, accepting, drained, joining⟩
  | dropped packet opened full => exact ⟨config_eq, workerCount, accepting, drained, joining⟩
  | accepted packet opened room =>
    refine ⟨config_eq, workerCount, accepting, ?_, joining⟩
    -- no worker has left while packets are accepted
    intro worker hmem hexited
    have hrequested := (drained worker hmem hexited).1
    rw [opened, hrequested] at accepting
    cases accepting
  | took worker packet rest idle front =>
    refine ⟨config_eq, (List.length_set).trans workerCount, accepting, ?_, joining⟩
    intro other hmem hexited
    rcases List.mem_or_eq_of_mem_set hmem with hold | hnew
    · have hempty := (drained other hold hexited).2
      rw [front] at hempty
      cases hempty
    · rw [hnew] at hexited
      cases hexited
  | exited worker idle hempty requested =>
    refine ⟨config_eq, (List.length_set).trans workerCount, accepting, ?_, joining⟩
    exact fun _ _ _ => ⟨requested, hempty⟩
  | returned worker packet busy =>
    refine ⟨config_eq, (List.length_set).trans workerCount, accepting, ?_, joining⟩
    intro other hmem hexited
    rcases List.mem_or_eq_of_mem_set hmem with hold | hnew
    · exact drained other hold hexited
    · rw [hnew] at hexited
      cases hexited
  | threw worker packet busy =>
    refine ⟨config_eq, (List.length_set).trans workerCount, accepting, ?_, joining⟩
    intro other hmem hexited
    rcases List.mem_or_eq_of_mem_set hmem with hold | hnew
    · exact drained other hold hexited
    · rw [hnew] at hexited
      cases hexited
  | stopBegun free => exact ⟨config_eq, workerCount, accepting, drained, fun h => nomatch h⟩
  | stopRequested locked =>
    refine ⟨config_eq, workerCount, rfl, ?_, fun _ => rfl⟩
    exact fun worker hmem hexited => ⟨rfl, (drained worker hmem hexited).2⟩
  | stopReturned joining joined =>
    exact ⟨config_eq, workerCount, accepting, drained, fun h => nomatch h⟩

/-- What the constructor builds. -/
theorem make_eq_ok {config : WorkerPipelineConfig} {pipeline : WorkerPipeline}
    (h : make config true = .ok pipeline) :
    config.workerCount ≠ 0 ∧ config.queueCapacity ≠ 0 ∧ pipeline = { config } := by
  unfold make validateConfig at h
  by_cases hworkers : config.workerCount = 0
  · rw [if_pos hworkers] at h
    cases h
  · by_cases hcapacity : config.queueCapacity = 0
    · rw [if_neg hworkers, if_pos hcapacity] at h
      cases h
    · rw [if_neg hworkers, if_neg hcapacity] at h
      cases h
      exact ⟨hworkers, hcapacity, rfl⟩

/-- Workers without a packet hold none. -/
theorem heldPackets_eq_nil {pipeline : WorkerPipeline}
    (h : ∀ worker ∈ pipeline.workers, worker.held = none) : pipeline.heldPackets = [] :=
  List.filterMap_eq_nil_iff.mpr h

/-- **Every reachable state accounts for its packets and knows how far its shutdown is.** -/
theorem reaches_invariant {config : WorkerPipelineConfig} {trace : List Event}
    {pipeline : WorkerPipeline} (run : (system config).Reaches trace pipeline) :
    Accounted trace pipeline ∧ Draining config pipeline := by
  refine run.invariant (fun trace pipeline => Accounted trace pipeline ∧
    Draining config pipeline) ?_ ?_
  · intro pipeline hinitial
    obtain ⟨_, _, rfl⟩ := make_eq_ok hinitial
    have hheld : heldPackets { config } = [] := by
      refine heldPackets_eq_nil fun worker hmem => ?_
      rw [List.eq_of_mem_replicate hmem]
      rfl
    refine ⟨⟨?_, rfl, rfl, rfl, rfl, rfl⟩, rfl, List.length_replicate, rfl, ?_, fun h => nomatch h⟩
    · rw [hheld]
      rfl
    · intro worker hmem hexited
      rw [List.eq_of_mem_replicate hmem] at hexited
      cases hexited
  · rintro trace pipeline event next _ ⟨haccounted, hdraining⟩ ⟨action, hperform⟩
    have hstep := transition_of_perform hperform
    exact ⟨haccounted.step hstep, hdraining.step hstep⟩

/-- Once every worker has exited, nothing waits and every accepted packet was processed. -/
theorem processed_of_exited {config : WorkerPipelineConfig} {trace : List Event}
    {pipeline : WorkerPipeline} (run : (system config).Reaches trace pipeline)
    (workers : config.workerCount ≠ 0) (exited : ∀ worker ∈ pipeline.workers, worker = .exited) :
    pipeline.queue = [] ∧ (acceptedPackets trace : Multiset ReceivedPacket) =
      returnedPackets trace + threwPackets trace := by
  obtain ⟨haccounted, hdraining⟩ := reaches_invariant run
  obtain ⟨worker, hmem⟩ : ∃ worker, worker ∈ pipeline.workers := by
    refine List.exists_mem_of_length_pos ?_
    rw [hdraining.workerCount]
    exact Nat.pos_of_ne_zero workers
  have hqueue := (hdraining.drained worker hmem (exited worker hmem)).2
  have hheld : pipeline.heldPackets = [] := by
    refine heldPackets_eq_nil fun worker hmem => ?_
    rw [exited worker hmem]
    rfl
  have hconserved := haccounted.conserved
  rw [hqueue, hheld, Multiset.coe_nil, zero_add, zero_add] at hconserved
  exact ⟨hqueue, hconserved⟩

/-- The state in which a `stop` returned `metrics`: nothing is left to do, and nothing will be
taken on. -/
structure Quiescent (metrics : WorkerPipelineMetrics) (pipeline : WorkerPipeline) : Prop where
  exited : ∀ worker ∈ pipeline.workers, worker = .exited
  closed : pipeline.accepting = false
  drained : pipeline.queue = []
  metrics_eq : pipeline.metrics =
    { metrics with packetsRejectedStopped := pipeline.metrics.packetsRejectedStopped }

/-- Nothing is held when every worker has exited. -/
theorem Quiescent.held {metrics : WorkerPipelineMetrics} {pipeline : WorkerPipeline}
    (h : Quiescent metrics pipeline) : pipeline.heldPackets = [] := by
  refine heldPackets_eq_nil fun worker hmem => ?_
  rw [h.exited worker hmem]
  rfl

/-- What a worker that has exited is not. -/
private theorem Quiescent.not_running {metrics : WorkerPipelineMetrics}
    {pipeline : WorkerPipeline} (h : Quiescent metrics pipeline) {index : Nat} {worker : Worker}
    (hworker : pipeline.workers[index]? = some worker) : worker = .exited :=
  h.exited worker (List.mem_of_getElem? hworker)

/-- **Quiescence is never left**, and all that can still happen is a rejection or another stop. -/
theorem Quiescent.step {metrics : WorkerPipelineMetrics} {pipeline next : WorkerPipeline}
    {event : Event} (h : Quiescent metrics pipeline) (step : Transition pipeline event next) :
    Quiescent metrics next ∧ (∀ packet, event ≠ .submitted packet .kAccepted) ∧
      ∀ later, event = .stopReturned later →
        later = { metrics with packetsRejectedStopped := later.packetsRejectedStopped } := by
  cases step with
  | rejected packet closed =>
    refine ⟨⟨h.exited, h.closed, h.drained, ?_⟩, (fun _ h => nomatch h), (fun _ h => nomatch h)⟩
    rw [h.metrics_eq]
  | dropped packet opened full =>
    rw [h.closed] at opened
    cases opened
  | accepted packet opened room =>
    rw [h.closed] at opened
    cases opened
  | took worker packet rest idle front => cases h.not_running idle
  | exited worker idle drained requested => cases h.not_running idle
  | returned worker packet busy => cases h.not_running busy
  | threw worker packet busy => cases h.not_running busy
  | stopBegun free =>
    exact ⟨⟨h.exited, h.closed, h.drained, h.metrics_eq⟩, (fun _ h => nomatch h),
      (fun _ h => nomatch h)⟩
  | stopRequested locked =>
    exact ⟨⟨h.exited, rfl, h.drained, h.metrics_eq⟩, (fun _ h => nomatch h), (fun _ h => nomatch h)⟩
  | stopReturned joining joined =>
    refine ⟨⟨h.exited, h.closed, h.drained, h.metrics_eq⟩, (fun _ h => nomatch h), ?_⟩
    intro later hlater
    cases hlater
    exact h.metrics_eq

/-- **A `stop` returns in quiescence.** -/
theorem quiescent_of_stopReturned {config : WorkerPipelineConfig} {before : List Event}
    {metrics : WorkerPipelineMetrics} {pipeline : WorkerPipeline}
    (run : (system config).Reaches (before ++ [.stopReturned metrics]) pipeline)
    (workers : config.workerCount ≠ 0) : Quiescent metrics pipeline ∧ pipeline.metrics = metrics := by
  obtain ⟨earlier, hearlier, action, hperform⟩ := run.last
  have hdraining := (reaches_invariant hearlier).2
  cases transition_of_perform hperform with
  | stopReturned joining joined =>
    have hrequested := hdraining.joining joining
    -- there is a worker, it has exited, so the queue was empty and stays so
    obtain ⟨worker, hmem⟩ : ∃ worker, worker ∈ earlier.workers := by
      refine List.exists_mem_of_length_pos ?_
      rw [hdraining.workerCount]
      exact Nat.pos_of_ne_zero workers
    have hdrained := (hdraining.drained worker hmem (joined worker hmem)).2
    refine ⟨⟨joined, ?_, hdrained, rfl⟩, rfl⟩
    change earlier.accepting = false
    rw [hdraining.accepting, hrequested]
    rfl

/-- **Exactly-once processing and drain.** In every reachable state of every interleaving the
accepted packets are, with multiplicity, the waiting ones, the held ones, those whose processor call
returned and those whose call threw. When a `stop` returns, nothing waits and nothing is held, every
submitted packet was processed or failed, nothing is accepted any more, and a later `stop` returns
the same metrics but for the rejections. -/
theorem pipeline_exactlyOnce (config : WorkerPipelineConfig)
    (valid : validateConfig config = .ok config) :
    (∀ trace pipeline, (system config).Reaches trace pipeline →
      (acceptedPackets trace : Multiset ReceivedPacket) =
        pipeline.queue + pipeline.heldPackets + returnedPackets trace + threwPackets trace) ∧
    (∀ before metrics pipeline,
      (system config).Reaches (before ++ [.stopReturned metrics]) pipeline →
      pipeline.queue = [] ∧ pipeline.heldPackets = [] ∧
        metrics.packetsSubmitted = metrics.packetsProcessed + metrics.handlerFailures) ∧
    (∀ before metrics after pipeline,
      (system config).Reaches (before ++ [.stopReturned metrics] ++ after) pipeline →
      (∀ packet, .submitted packet .kAccepted ∉ after) ∧
        ∀ later, .stopReturned later ∈ after →
          later = { metrics with packetsRejectedStopped := later.packetsRejectedStopped }) := by
  have hworkers : config.workerCount ≠ 0 := by
    intro hzero
    rw [validateConfig, if_pos hzero] at valid
    cases valid
  refine ⟨fun trace pipeline run => (reaches_invariant run).1.conserved, ?_, ?_⟩
  · intro before metrics pipeline run
    obtain ⟨hquiescent, hmetrics⟩ := quiescent_of_stopReturned run hworkers
    have haccounted := (reaches_invariant run).1
    have hconserved := haccounted.conserved
    rw [hquiescent.drained, hquiescent.held] at hconserved
    refine ⟨hquiescent.drained, hquiescent.held, ?_⟩
    have hlength := congrArg Multiset.card hconserved
    simp only [Multiset.coe_card, Multiset.card_add, List.length_nil, Nat.zero_add] at hlength
    rw [← hmetrics, haccounted.submitted, haccounted.processed, haccounted.failures, hlength,
      BitVec.ofNat_add]
  · intro before metrics after pipeline run
    obtain ⟨stopped, hstopped, hpath⟩ := run.split
    have hquiescent := (quiescent_of_stopReturned hstopped hworkers).1
    have hlater := hpath.forall_label (Quiescent metrics) hquiescent fun _ _ _ h step =>
      (h.step (transition_of_perform step.choose_spec)).1
    constructor
    · intro packet hmem
      obtain ⟨_, _, hat, _, hperform⟩ := hlater _ hmem
      exact (hat.step (transition_of_perform hperform)).2.1 packet rfl
    · intro later hmem
      obtain ⟨_, _, hat, _, hperform⟩ := hlater _ hmem
      exact (hat.step (transition_of_perform hperform)).2.2 later rfl

/-- One worker, whose only processor call throws, is drained and joined. -/
theorem pipeline_exactlyOnce_failure :
    ∃ before metrics pipeline,
      (system { workerCount := 1 }).Reaches (before ++ [.stopReturned metrics]) pipeline ∧
      metrics.handlerFailures = 1 ∧ pipeline.queue = [] ∧ pipeline.heldPackets = [] ∧
      metrics.packetsSubmitted = metrics.packetsProcessed + metrics.handlerFailures := by
  have hstart : (system { workerCount := 1 }).Reaches [] { config := { workerCount := 1 } } :=
    .start rfl
  have hschedule : performAll perform { config := { workerCount := 1 } } [.trySubmit {}, .acquire 0,
      .lockLifecycle, .requestStop, .finish 0 true, .acquire 0, .returnStop] =
      some ({ config := { workerCount := 1 }, workers := [.exited], accepting := false,
              stopRequested := true
              metrics := { packetsSubmitted := 1, handlerFailures := 1, queueHighWatermark := 1 } },
        [.submitted {} .kAccepted, .took 0 {}, .stopBegun, .stopRequested, .threw 0 {},
          .exited 0] ++
        [.stopReturned
          { packetsSubmitted := 1, handlerFailures := 1, queueHighWatermark := 1 }]) := by
    decide +kernel
  have hrun := hstart.performAll (fun _ action _ _ h => ⟨action, h⟩) _ hschedule
  rw [List.nil_append] at hrun
  exact ⟨_, _, _, hrun, rfl, (pipeline_exactlyOnce { workerCount := 1 } rfl).2.1 _ _ _ hrun⟩

end WorkerPipeline

end Driveflow.Runtime

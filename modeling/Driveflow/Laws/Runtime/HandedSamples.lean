import Driveflow.Laws.Runtime.ConcurrentSamples
import Driveflow.Laws.Runtime.Ledger
import Driveflow.Laws.Runtime.QueueOrder

/-!
# The samples a run hands out

What the sample handler is invoked with, on whatever worker, is the sample of an accepted packet
(`handlerInvocations_le`), no packet is handed out twice, and once the workers have been joined no
decodable one is missing (`handlerInvocations_eq`). A single worker hands the samples out in the
order in which their packets were accepted (`handlerInvocations_prefix`).
-/

namespace Driveflow.Runtime

open Library Net Protocol

/-- The sample of a received packet, if its payload decodes. -/
def sampleOf (packet : ReceivedPacket) : Option SensorSample :=
  ((decodeSensorPayload packet.packet.header.messageType packet.packet.payload).bind
    DecodeSensorPayloadResult.payload).map (SensorSampleProcessor.makeSample packet)

theorem isSome_sampleOf (packet : ReceivedPacket) :
    (sampleOf packet).isSome = payloadDecodes packet := by
  rw [sampleOf, Option.isSome_map]
  rfl

/-- A sample that re-encodes to the payload of a packet is what the packet decodes to. -/
theorem sampleOf_eq_some {packet : ReceivedPacket} {sample : SensorSample}
    (h : SensorSampleProcessor.SampleOf packet sample) : sampleOf packet = some sample := by
  have hvalid : sample.payload.validate = .kNone := by
    by_contra hinvalid
    obtain ⟨what, herror⟩ := encodeSensorPayload_error hinvalid
    rw [h.payload] at herror
    cases herror
  have hbytes : packet.packet.payload = payloadLayout sample.payload :=
    Except.ok.inj (h.payload.symm.trans (encodeSensorPayload_eq hvalid))
  obtain ⟨result, hresult, hpayload⟩ := decodeSensorPayload_iff.mpr ⟨h.variant, hvalid, hbytes⟩
  rw [sampleOf, hresult, Option.bind_some, hpayload, Option.map_some]
  obtain ⟨sequenceNumber, sourceTimestampNs, receiveTimestampNs, source, listener, payload⟩ := sample
  simp only [SensorSampleProcessor.makeSample, ← h.sequenceNumber, ← h.sourceTimestampNs,
    ← h.receiveTimestampNs, ← h.source, ← h.listener]

namespace Run

open WorkerPipeline (Worker acceptedPackets tookPackets)
open SensorSampleProcessor (Phase CallEvent Call SampleOf)

/-! ## One call -/

section Calls

variable {config : RuntimeConfig} {trace : List Event} {state next : State}

/-- What a step of a kind is seen to do. -/
def Action.emits : Action → Event → Bool
  | .askStop _, .stopAsked _ | .poll _ _, .polled _ | .observePacket, .considered _
  | .trySubmit, .pipeline _ | .observeQueueDrop, .queueDropObserved _ | .countPacket, .counted
  | .readClock _, .clockRead _ | .lockLifecycle, .pipeline _ | .requestStop, .pipeline _
  | .returnStop, .pipeline _ | .summarise, .returned _ | .acquire _, .pipeline _
  | .advance _ _, .sample _ _ _ | .observeRejection _, .rejectionObserved _ _
  | .finish _, .pipeline _ => true
  | _, _ => false

/-- An action that is performed emits the event it is for. -/
theorem emits_of_perform {action : Action} {event : Event}
    (h : perform state action = some (next, event)) : action.emits event = true := by
  cases action with
  | advance worker throws =>
    obtain ⟨_, _, hrest⟩ := Option.bind_eq_some_iff.mp h
    dsimp only at hrest
    split at hrest
    · obtain ⟨_, _, hend⟩ := Option.bind_eq_some_iff.mp hrest
      cases hend
      rfl
    · cases hrest
  | acquire worker =>
    obtain ⟨⟨_, _⟩, _, hend⟩ := Option.bind_eq_some_iff.mp h
    cases hend
    rfl
  | observeRejection worker =>
    obtain ⟨_, _, hrest⟩ := Option.bind_eq_some_iff.mp h
    split at hrest
    · split at hrest
      · cases hrest
        rfl
      · cases hrest
    · cases hrest
  | finish worker =>
    simp only [perform, finish] at h
    split at h
    all_goals
      obtain ⟨_, _, hrest⟩ := Option.bind_eq_some_iff.mp h
      obtain ⟨⟨_, _⟩, _, hend⟩ := Option.bind_eq_some_iff.mp hrest
      cases hend
      rfl
  | lockLifecycle | requestStop | returnStop =>
    simp only [perform] at h
    split at h
    · obtain ⟨⟨_, _⟩, _, hend⟩ := Option.bind_eq_some_iff.mp h
      cases hend
      rfl
    · cases h
  | _ =>
    simp only [perform] at h
    split at h <;> cases h <;> rfl

/-- Only a worker inside `process` makes a call go on. -/
theorem call_of_perform {action : Action} {event : Event}
    (h : perform state action = some (next, event)) :
    event.call? = none ∨ ∃ worker throws, advance state worker throws = some (next, event) := by
  have hemits := emits_of_perform h
  cases event with
  | sample worker packet call =>
    cases action with
    | advance worker throws => exact Or.inr ⟨worker, throws, h⟩
    | _ => cases hemits
  | _ => exact Or.inl rfl

/-- What the job of a worker knows of the packet that the worker is processing, and what the handler
was invoked with so far. -/
structure Informed (trace : List Event) (state : State) : Prop where
  jobs : ∀ (worker : Nat) (packet : ReceivedPacket) (call : Call),
    state.pipeline.workers[worker]? = some (.processing packet) →
    state.jobs[worker]? = some (.processing call) → SensorSampleProcessor.Sound packet call
  samples : ∀ worker packet sample, Event.sample worker packet (.handlerInvoked sample) ∈ trace →
    sampleOf packet = some sample

/-- A step that is none of a call, and starts none but from its beginning. -/
theorem Informed.other {event : Event} (h : Informed trace state)
    (step : Transition state event next) (call : event.call? = none) :
    Informed (trace ++ [event]) next := by
  have hsamples : ∀ worker packet sample,
      Event.sample worker packet (.handlerInvoked sample) ∈ trace ++ [event] →
        sampleOf packet = some sample := by
    intro worker packet sample hmem
    rcases List.mem_append.mp hmem with hmem | hmem
    · exact h.samples worker packet sample hmem
    · rw [← List.mem_singleton.mp hmem] at call
      cases call
  -- a worker that is processing before and after
  have kept {pipeline : WorkerPipeline} {worker : Nat} {moved : Worker}
      (hset : pipeline.workers = state.pipeline.workers.set worker moved)
      (hidle : moved.held = none) :
      ∀ (other : Nat) (packet : ReceivedPacket) (call : Call),
        pipeline.workers[other]? = some (.processing packet) →
        state.jobs[other]? = some (.processing call) →
          SensorSampleProcessor.Sound packet call := by
    intro other packet call hbusy hjob
    rw [hset, List.getElem?_set] at hbusy
    split at hbusy
    · split at hbusy
      · cases hbusy
        cases hidle
      · cases hbusy
    · exact h.jobs other packet call hbusy hjob
  -- a worker that enters the packet processor
  have entered {pipeline : WorkerPipeline} {worker : Nat} {moved : Worker}
      (hset : pipeline.workers = state.pipeline.workers.set worker moved) :
      ∀ (other : Nat) (packet : ReceivedPacket) (call : Call),
        pipeline.workers[other]? = some (.processing packet) →
        (state.jobs.set worker (.processing .entered))[other]? = some (.processing call) →
          SensorSampleProcessor.Sound packet call := by
    intro other packet call hbusy hjob
    by_cases hother : worker = other
    · rw [hother, List.getElem?_set_self'] at hjob
      cases hold : state.jobs[other]? with
      | none =>
        rw [hold] at hjob
        cases hjob
      | some job =>
        rw [hold] at hjob
        cases hjob
        exact trivial
    · rw [List.getElem?_set_ne hother] at hjob
      rw [hset, List.getElem?_set_ne hother] at hbusy
      exact h.jobs other packet call hbusy hjob
  refine ⟨?_, hsamples⟩
  cases step with
  | refused packet rest pipeline stands submits =>
    cases WorkerPipeline.transition_of_perform submits with
    | dropped => exact h.jobs
  | submitted packet rest pipeline result stands settled submits =>
    cases WorkerPipeline.transition_of_perform submits <;> exact h.jobs
  | stopSteps timestamp action event pipeline stands steps stop =>
    rcases stop with rfl | rfl <;>
      cases WorkerPipeline.transition_of_perform steps <;> exact h.jobs
  | stopped timestamp pipeline metrics stands steps =>
    cases WorkerPipeline.transition_of_perform steps with
    | stopReturned => exact h.jobs
  | took worker packet pipeline steps =>
    cases WorkerPipeline.transition_of_perform steps with
    | took => exact entered rfl
  | exited worker pipeline steps =>
    cases WorkerPipeline.transition_of_perform steps with
    | exited => exact entered rfl
  | advanced => cases call
  | reported worker packet job busy job_eq phase =>
    intro other packet' call' hbusy hjob
    by_cases hother : worker = other
    · rw [hother, List.getElem?_set_self'] at hjob
      cases hold : state.jobs[other]? <;> rw [hold] at hjob <;> cases hjob
    · rw [List.getElem?_set_ne hother] at hjob
      exact h.jobs other packet' call' hbusy hjob
  | finished worker packet job pipeline job_eq phase steps =>
    cases WorkerPipeline.transition_of_perform steps with
    | returned => exact kept rfl rfl
  | failed worker packet job pipeline job_eq phase steps =>
    cases WorkerPipeline.transition_of_perform steps with
    | threw => exact kept rfl rfl
  | _ => exact h.jobs

/-- A call that goes on. -/
theorem Informed.advance {event : Event} (h : Informed trace state) {worker : Nat} {throws : Bool}
    (step : Run.advance state worker throws = some (next, event)) :
    Informed (trace ++ [event]) next := by
  obtain ⟨packet, hpacket, hrest⟩ := Option.bind_eq_some_iff.mp step
  dsimp only at hrest
  split at hrest
  next call hjob =>
    obtain ⟨⟨metrics, call', seen⟩, hadvance, hend⟩ := Option.bind_eq_some_iff.mp hrest
    cases hend
    have hbusy := processed?_eq_some hpacket
    obtain ⟨hsound, hhanded⟩ := (h.jobs worker packet call hbusy hjob).advance hadvance
    constructor
    · intro other packet' call'' hother hjob'
      by_cases hsame : worker = other
      · subst hsame
        cases hbusy.symm.trans hother
        rw [List.getElem?_set_self', hjob] at hjob'
        cases hjob'
        exact hsound
      · rw [List.getElem?_set_ne hsame] at hjob'
        exact h.jobs other packet' call'' hother hjob'
    · intro other packet' sample hmem
      rcases List.mem_append.mp hmem with hmem | hmem
      · exact h.samples other packet' sample hmem
      · cases List.mem_singleton.mp hmem
        exact sampleOf_eq_some (hhanded sample rfl)
  next => cases hrest

/-- **Every call knows its packet**, in every reachable state. -/
theorem informed (run : (system config).Reaches trace state) : Informed trace state := by
  refine run.invariant Informed ?_ ?_
  · rintro _ ⟨_, pipeline, _, _, hmake, rfl⟩
    obtain ⟨_, _, rfl⟩ := WorkerPipeline.make_eq_ok hmake
    constructor
    · intro worker packet call hbusy
      have hidle := List.eq_of_mem_replicate (List.mem_of_getElem? hbusy)
      cases hidle
    · intro worker packet sample hmem
      exact absurd hmem List.not_mem_nil
  · rintro trace state event next _ hinformed ⟨action, hperform⟩
    rcases call_of_perform hperform with hcall | ⟨worker, throws, hadvance⟩
    · exact hinformed.other (transition_of_perform hperform) hcall
    · exact hinformed.advance hadvance

end Calls

/-! ## All calls -/

section Conservation

variable {config : RuntimeConfig} {trace : List Event} {state : State}

/-- The handler is invoked with the samples of the packets whose calls come to it. -/
theorem handlerInvocations_eq_filterMap (run : (system config).Reaches trace state) :
    handlerInvocations trace = (callsTo .handling trace).filterMap sampleOf := by
  rw [handlerInvocations, callsTo, List.filterMap_filterMap]
  refine List.filterMap_congr fun event hmem => ?_
  cases event with
  | sample worker packet call =>
    cases call with
    | handlerInvoked sample =>
      have hsample := (informed run).samples worker packet sample hmem
      simp only [CallEvent.target, if_true, Option.bind_some, hsample]
    | _ => rfl
  | _ => rfl

/-- What has left a phase had come to it. -/
theorem callsFrom_le {phase : Phase} (run : (system config).Reaches trace state)
    (done : phase ≠ .done) (threw : phase ≠ .threw) (rejected : phase ≠ .rejected) :
    (callsFrom phase trace : Multiset ReceivedPacket) ≤
      trace.filterMap fun event => event.arrival.bind (inPhase phase) := by
  have hflow := congrArg (Multiset.filterMap (inPhase phase)) (flow run)
  rw [Multiset.filterMap_add, Multiset.filterMap_coe, Multiset.filterMap_coe,
    List.filterMap_filterMap, List.filterMap_filterMap,
    departures_eq_callsFrom done threw rejected] at hflow
  rw [hflow]
  exact Multiset.le_add_right _ _

/-- A phase inside a call is come to before it is left. -/
theorem callsFrom_le_callsTo {phase : Phase} (run : (system config).Reaches trace state)
    (entered : phase ≠ .entered) (done : phase ≠ .done) (threw : phase ≠ .threw)
    (rejected : phase ≠ .rejected) :
    (callsFrom phase trace : Multiset ReceivedPacket) ≤ callsTo phase trace := by
  have hle := callsFrom_le run done threw rejected
  rwa [arrivals_eq_callsTo entered done] at hle

/-- The calls of `process` are of packets that a worker took. -/
theorem callsFrom_entered_le (run : (system config).Reaches trace state) :
    (callsFrom .entered trace : Multiset ReceivedPacket) ≤ tookPackets (pipelineEvents trace) := by
  have hle := @callsFrom_le _ _ _ .entered run (by decide) (by decide) (by decide)
  have htook : (trace.filterMap fun event => event.arrival.bind (inPhase .entered)) =
      tookPackets (pipelineEvents trace) := by
    rw [tookPackets, pipelineEvents, List.filterMap_filterMap]
    refine List.filterMap_congr fun event _ => ?_
    cases event with
    | pipeline event => cases event <;> rfl
    | sample worker packet call => cases call <;> rfl
    | _ => rfl
  rwa [htook] at hle

/-- **No packet comes to the handler twice**, and none that was not accepted. -/
theorem callsTo_handling_le (run : (system config).Reaches trace state) :
    (callsTo .handling trace : Multiset ReceivedPacket) ≤
      acceptedPackets (pipelineEvents trace) := by
  have inside {left reached : Phase}
      (same : ∀ call : CallEvent, call.origin = left ↔ call.target = reached)
      (entered : left ≠ .entered) (done : left ≠ .done) (threw : left ≠ .threw)
      (rejected : left ≠ .rejected) :
      (callsTo reached trace : Multiset ReceivedPacket) ≤ callsTo left trace := by
    rw [← callsFrom_eq same]
    exact callsFrom_le_callsTo run entered done threw rejected
  have hdecoded : (callsTo .decoded trace : Multiset ReceivedPacket) ≤ callsTo .examined trace := by
    have hways : (callsFrom .examined trace : Multiset ReceivedPacket) =
        callsTo .rejected trace + callsTo .decoded trace := by
      refine callsFrom_eq_add (by decide) (fun call => ?_) trace
      cases call <;> simp [CallEvent.origin, CallEvent.target]
    refine le_trans ?_ (callsFrom_le_callsTo run (by decide) (by decide) (by decide) (by decide))
    rw [hways]
    exact Multiset.le_add_left _ _
  have hexamined : (callsTo .examined trace : Multiset ReceivedPacket) ≤
      tookPackets (pipelineEvents trace) := by
    refine le_trans (le_of_eq ?_) (callsFrom_entered_le run)
    refine congrArg _ (callsFrom_eq (fun call => ?_) trace).symm
    cases call <;> simp [CallEvent.origin, CallEvent.target]
  have htook : (tookPackets (pipelineEvents trace) : Multiset ReceivedPacket) ≤
      acceptedPackets (pipelineEvents trace) := by
    rw [WorkerPipeline.acceptedPackets_eq (reaches_pipeline run), ← Multiset.coe_add]
    exact Multiset.le_add_right _ _
  calc (callsTo .handling trace : Multiset ReceivedPacket)
      ≤ callsTo .counted trace := by
        refine inside (fun call => ?_) (by decide) (by decide) (by decide) (by decide)
        cases call <;> simp [CallEvent.origin, CallEvent.target]
    _ ≤ callsTo .decoded trace := by
        refine inside (fun call => ?_) (by decide) (by decide) (by decide) (by decide)
        cases call <;> simp [CallEvent.origin, CallEvent.target]
    _ ≤ callsTo .examined trace := hdecoded
    _ ≤ tookPackets (pipelineEvents trace) := hexamined
    _ ≤ acceptedPackets (pipelineEvents trace) := htook

/-- **The handler is invoked with samples of accepted packets, once each.** -/
theorem handlerInvocations_le (run : (system config).Reaches trace state) :
    (handlerInvocations trace : Multiset SensorSample) ≤
      (acceptedPackets (pipelineEvents trace)).filterMap sampleOf := by
  have hle := Multiset.filterMap_le_filterMap sampleOf (callsTo_handling_le run)
  rw [Multiset.filterMap_coe, Multiset.filterMap_coe] at hle
  rwa [handlerInvocations_eq_filterMap run]

/-- **Once the workers are joined, every decodable accepted packet was handed out.** -/
theorem handlerInvocations_eq (run : (system config).Reaches trace state)
    (exited : ∀ worker ∈ state.pipeline.workers, worker = .exited)
    (accepted : (acceptedPackets (pipelineEvents trace) : Multiset ReceivedPacket) =
      callsTo .rejected trace + callsTo .decoded trace) :
    (handlerInvocations trace : Multiset SensorSample) =
      (acceptedPackets (pipelineEvents trace)).filterMap sampleOf := by
  have hsettled := settled run exited
  have hrejected : (callsTo .rejected trace).filterMap sampleOf = [] := by
    refine List.filterMap_eq_nil_iff.mpr fun packet hmem => ?_
    obtain ⟨event, hevent, hpacket⟩ := List.mem_filterMap.mp hmem
    cases event with
    | sample worker other call =>
      dsimp only at hpacket
      split at hpacket
      next htarget =>
        cases hpacket
        have hsays := says_of_mem run _ hevent _ _ _ rfl
        cases call with
        | rejected =>
          have hnot : payloadDecodes packet = false := hsays
          rw [← isSome_sampleOf] at hnot
          exact Option.not_isSome_iff_eq_none.mp (Bool.not_eq_true _ ▸ hnot)
        | _ => cases htarget
      next => cases hpacket
    | _ => cases hpacket
  rw [handlerInvocations_eq_filterMap run]
  have hsplit := congrArg (Multiset.filterMap sampleOf) accepted
  rw [hsettled.counted, hsettled.handling, Multiset.filterMap_add, Multiset.filterMap_coe,
    Multiset.filterMap_coe, Multiset.filterMap_coe, hrejected] at hsplit
  rw [hsplit, Multiset.coe_nil, zero_add]

end Conservation

/-! ## One worker -/

section Order

variable {config : RuntimeConfig} {trace : List Event} {state : State}

/-- A phase from which a call may yet come to the handler. -/
def ahead : Phase × ReceivedPacket → Option SensorSample
  | (.entered, packet) | (.examined, packet) | (.decoded, packet) | (.counted, packet) =>
    sampleOf packet
  | _ => none

/-- The packet that a worker takes. -/
def Event.took? : Event → Option ReceivedPacket
  | .pipeline (.took _ packet) => some packet
  | _ => none

/-- **What an event does to the sample ahead**: taken with its packet, given up with an undecodable
one, or handed to the handler. -/
theorem ahead_event {event : Event}
    (told : ∀ worker packet call, event = .sample worker packet call → call.Says packet)
    (handed : ∀ worker packet sample, event = .sample worker packet (.handlerInvoked sample) →
      sampleOf packet = some sample) :
    (event.departure.bind ahead).toList ++ (event.took?.bind sampleOf).toList =
      handlerInvocations [event] ++ (event.arrival.bind ahead).toList := by
  cases event with
  | pipeline event => cases event <;> rfl
  | sample worker packet call =>
    have hsays := told worker packet call rfl
    cases call with
    | handlerInvoked sample =>
      have hsample := handed worker packet sample rfl
      simp only [Event.departure, Event.took?, Event.arrival, CallEvent.origin, CallEvent.target,
        Option.bind_some, Option.bind_none, ahead, hsample]
      rfl
    | rejected =>
      have hnone : sampleOf packet = none := by
        have hnot : payloadDecodes packet = false := hsays
        rw [← isSome_sampleOf] at hnot
        exact Option.not_isSome_iff_eq_none.mp (Bool.not_eq_true _ ▸ hnot)
      simp only [Event.departure, Event.took?, Event.arrival, CallEvent.origin, CallEvent.target,
        Option.bind_some, Option.bind_none, ahead, hnone]
      rfl
    | _ => exact List.append_nil _
  | _ => rfl

/-- **A single worker hands the samples out in order**: with what it holds, they are the samples of
the packets it has taken. -/
theorem tookPackets_samples (single : config.pipeline.workerCount = 1)
    (run : (system config).Reaches trace state) :
    (tookPackets (pipelineEvents trace)).filterMap sampleOf =
      handlerInvocations trace ++
        (slots state).filterMap fun slot => (slotHeld slot).bind ahead := by
  refine run.invariant (fun trace state =>
    (tookPackets (pipelineEvents trace)).filterMap sampleOf = handlerInvocations trace ++
      (slots state).filterMap fun slot => (slotHeld slot).bind ahead) ?_ ?_
  · rintro _ ⟨_, pipeline, _, _, hmake, rfl⟩
    obtain ⟨_, _, rfl⟩ := WorkerPipeline.make_eq_ok hmake
    refine (List.filterMap_eq_nil_iff.mpr fun slot hmem => ?_).symm
    have hworker := List.eq_of_mem_replicate (List.of_mem_zip hmem).1
    rw [slotHeld, hworker]
    rfl
  · rintro trace state event next hrun heq hstep
    have hnext := hrun.next hstep
    obtain ⟨action, hperform⟩ := hstep
    have hmem : event ∈ trace ++ [event] := List.mem_append_right _ List.mem_cons_self
    have hevent := ahead_event (fun worker packet call h => says_of_mem hnext _ hmem _ _ _ h)
      fun worker packet sample h => (informed hnext).samples worker packet sample (h ▸ hmem)
    have htook : (tookPackets (pipelineEvents (trace ++ [event]))).filterMap sampleOf =
        (tookPackets (pipelineEvents trace)).filterMap sampleOf ++
          (event.took?.bind sampleOf).toList := by
      rw [pipelineEvents_append, tookPackets, List.filterMap_append, List.filterMap_append]
      refine congrArg _ ?_
      cases event with
      | pipeline event => cases event <;> rfl
      | _ => rfl
    have hhanded : handlerInvocations (trace ++ [event]) =
        handlerInvocations trace ++ handlerInvocations [event] := List.filterMap_append
    have hlength : (slots state).length = 1 := by
      rw [slots, List.length_zip, length_jobs hrun, Nat.min_self,
        (WorkerPipeline.reaches_invariant (reaches_pipeline hrun)).2.workerCount, single]
    obtain ⟨slot, hslot⟩ := List.length_eq_one_iff.mp hlength
    rw [htook, hhanded, heq, List.append_assoc, List.append_assoc]
    refine congrArg _ ?_
    rcases moves (length_jobs hrun) (transition_of_perform hperform) with
      ⟨hsame, hdeparture, harrival⟩ | ⟨index, old, new, hold, hset, hdeparture, harrival⟩
    · have hnone : event.took? = none := by
        cases event with
        | pipeline event =>
          cases event with
          | took => cases harrival
          | _ => rfl
        | _ => rfl
      rw [hdeparture, harrival, hnone] at hevent
      have hhanded : handlerInvocations [event] = [] := by
        rw [← List.append_nil (handlerInvocations [event])]
        exact hevent.symm
      rw [hsame, hnone, hhanded]
      exact List.append_nil _
    · have hzero : index = 0 := by
        have hlt := (List.getElem?_eq_some_iff.mp hold).1
        omega
      subst hzero
      rw [hslot] at hold hset
      cases hold
      rw [hdeparture, harrival] at hevent
      rw [hslot, hset]
      have hsingle (slot : Worker × Job) :
          ([slot].filterMap fun slot => (slotHeld slot).bind ahead) =
            ((slotHeld slot).bind ahead).toList := by
        rw [List.filterMap_cons, List.filterMap_nil]
        cases (slotHeld slot).bind ahead <;> rfl
      rw [List.set_cons_zero, hsingle, hsingle]
      exact hevent

/-- **With one worker, the samples come in the order of acceptance.** -/
theorem handlerInvocations_prefix (single : config.pipeline.workerCount = 1)
    (run : (system config).Reaches trace state) :
    handlerInvocations trace <+:
      (acceptedPackets (pipelineEvents trace)).filterMap sampleOf := by
  rw [WorkerPipeline.acceptedPackets_eq (reaches_pipeline run), List.filterMap_append,
    tookPackets_samples single run, List.append_assoc]
  exact List.prefix_append _ _

end Order

end Run

end Driveflow.Runtime

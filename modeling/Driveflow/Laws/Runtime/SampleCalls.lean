import Driveflow.Laws.Protocol.PayloadLayout
import Driveflow.Library.Transition
import Driveflow.Runtime.SensorSampleProcessor

/-!
# Calls of the sample processor

A call of `process` passes through phases. Every step is a move from the origin of its event to its
target (`advance_spec`), the shared counters tally the events, and a payload is rejected exactly
when it does not decode.
-/

namespace Driveflow.Runtime

open Library Net Protocol

/-- Whether the payload of a packet decodes. -/
def payloadDecodes (packet : ReceivedPacket) : Bool :=
  ((decodeSensorPayload packet.packet.header.messageType packet.packet.payload).bind
    DecodeSensorPayloadResult.payload).isSome

namespace SensorSampleProcessor

/-- Where a call stands, whatever its sample. -/
inductive Phase where
  | entered
  | examined
  | decoded
  | counted
  | handling
  | rejected
  | done
  | threw
  deriving DecidableEq

def Call.phase : Call → Phase
  | .entered => .entered
  | .examined => .examined
  | .decoded _ => .decoded
  | .counted _ => .counted
  | .handling _ => .handling
  | .returned error => if error = .kNone then .done else .rejected
  | .threw => .threw

namespace CallEvent

/-- The phase an event leaves. -/
def origin : CallEvent → Phase
  | .examined => .entered
  | .rejected | .decoded => .examined
  | .counted _ => .decoded
  | .handlerInvoked _ => .counted
  | .handlerReturned | .handlerThrew => .handling

/-- The phase an event leads to. -/
def target : CallEvent → Phase
  | .examined => .examined
  | .rejected => .rejected
  | .decoded => .decoded
  | .counted _ => .counted
  | .handlerInvoked _ => .handling
  | .handlerReturned => .done
  | .handlerThrew => .threw

/-- What an event adds to the counters. -/
def tally (metrics : SensorSampleProcessorMetrics) : CallEvent → SensorSampleProcessorMetrics
  | .examined => { metrics with packetsExamined := metrics.packetsExamined + 1 }
  | .rejected => { metrics with payloadsRejected := metrics.payloadsRejected + 1 }
  | .decoded => { metrics with samplesDecoded := metrics.samplesDecoded + 1 }
  | .counted sample => countType metrics sample.payload.messageType
  | _ => metrics

/-- What an event says about the payload of its packet. -/
def Says (packet : ReceivedPacket) : CallEvent → Prop
  | .rejected => payloadDecodes packet = false
  | .decoded => payloadDecodes packet = true
  | _ => True

/-- The samples of one type are counted. -/
def counts (type : MessageType) : CallEvent → Bool
  | .counted sample => sample.payload.messageType = type
  | _ => false

end CallEvent

/-- **A step of a call**, read as a move from phase to phase. -/
theorem advance_spec {metrics metrics' : SensorSampleProcessorMetrics} {packet : ReceivedPacket}
    {throws : Bool} {call call' : Call} {event : CallEvent}
    (h : advance metrics packet throws call = some (metrics', call', event)) :
    call.phase = event.origin ∧ call'.phase = event.target ∧ metrics' = event.tally metrics ∧
      event.Says packet := by
  cases call with
  | entered | decoded _ | counted _ =>
    cases h
    exact ⟨rfl, rfl, rfl, trivial⟩
  | examined =>
    obtain ⟨result, hresult, hanswers⟩ := decodeSensorPayload_answers
      packet.packet.header.messageType packet.packet.payload
    have hdecodes : payloadDecodes packet = result.payload.isSome := by
      rw [payloadDecodes, hresult]
      rfl
    simp only [advance, hresult, Option.bind_eq_bind, Option.bind_some] at h
    cases hpayload : result.payload with
    | none =>
      rw [hpayload] at h hdecodes
      cases h
      exact ⟨rfl, if_neg (hanswers.mp hpayload), rfl, hdecodes⟩
    | some payload =>
      rw [hpayload] at h hdecodes
      cases h
      exact ⟨rfl, rfl, rfl, hdecodes⟩
  | handling _ =>
    cases throws with
    | true =>
      cases h
      exact ⟨rfl, rfl, rfl, trivial⟩
    | false =>
      cases h
      exact ⟨rfl, rfl, rfl, trivial⟩
  | returned _ => cases h
  | threw => cases h

/-! ## The counters -/

/-- What an event adds to a counter of a type. -/
private theorem tally_type (metrics : SensorSampleProcessorMetrics) (event : CallEvent) :
    (event.tally metrics).imuSamples =
        metrics.imuSamples + BitVec.ofNat 64 (if event.counts .kImu then 1 else 0) ∧
      (event.tally metrics).gnssSamples =
        metrics.gnssSamples + BitVec.ofNat 64 (if event.counts .kGnss then 1 else 0) ∧
      (event.tally metrics).cameraMetaSamples =
        metrics.cameraMetaSamples +
          BitVec.ofNat 64 (if event.counts .kCameraMeta then 1 else 0) := by
  have same (value : BitVec 64) : value = value + BitVec.ofNat 64 0 := (BitVec.add_zero _).symm
  cases event with
  | counted sample =>
    obtain ⟨_, _, _, _, _, payload⟩ := sample
    cases payload with
    | imuSample _ => exact ⟨rfl, same _, same _⟩
    | gnssFix _ => exact ⟨same _, rfl, same _⟩
    | cameraMeta _ => exact ⟨same _, same _, rfl⟩
  | _ => exact ⟨same _, same _, same _⟩

/-- What an event adds to the other counters. -/
theorem tally_outcome (metrics : SensorSampleProcessorMetrics) (event : CallEvent) :
    (event.tally metrics).packetsExamined = metrics.packetsExamined +
        BitVec.ofNat 64 (if event.target = .examined then 1 else 0) ∧
      (event.tally metrics).samplesDecoded = metrics.samplesDecoded +
        BitVec.ofNat 64 (if event.target = .decoded then 1 else 0) ∧
      (event.tally metrics).payloadsRejected = metrics.payloadsRejected +
        BitVec.ofNat 64 (if event.target = .rejected then 1 else 0) := by
  have same (value : BitVec 64) : value = value + BitVec.ofNat 64 0 := (BitVec.add_zero _).symm
  cases event with
  | examined => exact ⟨rfl, same _, same _⟩
  | decoded => exact ⟨same _, rfl, same _⟩
  | rejected => exact ⟨same _, same _, rfl⟩
  | counted sample =>
    obtain ⟨_, _, _, _, _, payload⟩ := sample
    cases payload <;> exact ⟨same _, same _, same _⟩
  | _ => exact ⟨same _, same _, same _⟩

/-- What the counters say of the calls they were shared by. -/
structure Tallied (events : List CallEvent) (metrics : SensorSampleProcessorMetrics) : Prop where
  examined : metrics.packetsExamined =
    BitVec.ofNat 64 (events.countP fun event => event.target = .examined)
  decoded : metrics.samplesDecoded =
    BitVec.ofNat 64 (events.countP fun event => event.target = .decoded)
  rejected : metrics.payloadsRejected =
    BitVec.ofNat 64 (events.countP fun event => event.target = .rejected)
  imu : metrics.imuSamples = BitVec.ofNat 64 (events.countP (CallEvent.counts .kImu))
  gnss : metrics.gnssSamples = BitVec.ofNat 64 (events.countP (CallEvent.counts .kGnss))
  camera : metrics.cameraMetaSamples =
    BitVec.ofNat 64 (events.countP (CallEvent.counts .kCameraMeta))

/-- **The counters count the events.** -/
theorem tallied_foldl (events : List CallEvent) :
    Tallied events (events.foldl CallEvent.tally {}) := by
  have counter (field : SensorSampleProcessorMetrics → BitVec 64) (kind : CallEvent → Bool)
      (zero : field {} = 0#64)
      (bumped : ∀ metrics event, field (CallEvent.tally metrics event) =
        field metrics + BitVec.ofNat 64 (if kind event then 1 else 0)) :
      field (events.foldl CallEvent.tally {}) = BitVec.ofNat 64 (events.countP kind) := by
    rw [foldl_counter CallEvent.tally field kind bumped, zero, BitVec.zero_add]
  constructor
  · refine counter _ _ rfl fun metrics event => ?_
    simp only [decide_eq_true_eq]
    exact (tally_outcome metrics event).1
  · refine counter _ _ rfl fun metrics event => ?_
    simp only [decide_eq_true_eq]
    exact (tally_outcome metrics event).2.1
  · refine counter _ _ rfl fun metrics event => ?_
    simp only [decide_eq_true_eq]
    exact (tally_outcome metrics event).2.2
  · exact counter _ _ rfl fun metrics event => (tally_type metrics event).1
  · exact counter _ _ rfl fun metrics event => (tally_type metrics event).2.1
  · exact counter _ _ rfl fun metrics event => (tally_type metrics event).2.2

/-- A counted sample is counted for exactly one type. -/
theorem countP_counted (events : List CallEvent) :
    (events.countP fun event => event.target = .counted) =
      events.countP (CallEvent.counts .kImu) + events.countP (CallEvent.counts .kGnss) +
        events.countP (CallEvent.counts .kCameraMeta) := by
  induction events with
  | nil => rfl
  | cons event events ih =>
    rw [List.countP_cons, List.countP_cons, List.countP_cons, List.countP_cons, ih]
    cases event with
    | counted sample =>
      obtain ⟨_, _, _, _, _, payload⟩ := sample
      cases payload with
      | imuSample _ =>
        refine (Nat.add_right_comm _ _ _).trans (congrArg (· + _) ?_)
        exact Nat.add_right_comm _ _ _
      | gnssFix _ => exact Nat.add_right_comm _ _ _
      | cameraMeta _ => rfl
    | _ => rfl

end SensorSampleProcessor

end Driveflow.Runtime

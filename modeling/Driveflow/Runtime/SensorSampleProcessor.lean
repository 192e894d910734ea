import Driveflow.Library.Transition
import Driveflow.Protocol.SensorPayload
import Driveflow.Runtime.EpollReceiver

/-!
# The sensor sample processor

`sensor_sample_processor.hpp` and `sensor_sample_processor.cpp`. Any number of calls of `process`
may run at once, and they share nothing but six atomic counters, so a call is a little machine: each
increment is one step, and so are the invocation of the sample handler and its end. The processor is
its counters and the calls, each of which goes on in its own time.
-/

namespace Driveflow.Runtime

open Library Net Protocol

structure SensorSample where
  sequenceNumber : BitVec 64
  sourceTimestampNs : BitVec 64
  receiveTimestampNs : BitVec 64
  source : Ipv4Endpoint
  listener : Ipv4Endpoint
  payload : SensorPayload
  deriving DecidableEq, Repr

structure SensorSampleProcessorMetrics where
  packetsExamined : BitVec 64 := 0
  samplesDecoded : BitVec 64 := 0
  payloadsRejected : BitVec 64 := 0
  imuSamples : BitVec 64 := 0
  gnssSamples : BitVec 64 := 0
  cameraMetaSamples : BitVec 64 := 0
  deriving DecidableEq, Repr

namespace SensorSampleProcessor

/-- The constructor; `hasHandler` tells whether the sample handler is callable. -/
def make (hasHandler : Bool) : Except Exception SensorSampleProcessorMetrics :=
  if !hasHandler then .error (.invalidArgument "sensor sample handler must not be empty")
  else .ok {}

/-- Where a call of `process` stands. -/
inductive Call where
  | entered
  /-- `packets_examined` was incremented. -/
  | examined
  /-- The payload was decoded and `samples_decoded` incremented. -/
  | decoded (sample : SensorSample)
  /-- The counter of the sample's type was incremented. -/
  | counted (sample : SensorSample)
  /-- The sample handler is running. -/
  | handling (sample : SensorSample)
  | returned (error : SensorPayloadError)
  | threw
  deriving DecidableEq, Repr

/-- What one step of a call does. -/
inductive CallEvent where
  | examined
  | rejected
  | decoded
  | counted (sample : SensorSample)
  | handlerInvoked (sample : SensorSample)
  | handlerReturned
  | handlerThrew
  deriving DecidableEq, Repr

/-- The sample of a received packet and its decoded payload. -/
def makeSample (receivedPacket : ReceivedPacket) (payload : SensorPayload) : SensorSample :=
  { sequenceNumber := receivedPacket.packet.header.sequenceNumber
    sourceTimestampNs := receivedPacket.packet.header.sourceTimestampNs
    receiveTimestampNs := receivedPacket.receiveTimestampNs
    source := receivedPacket.source
    listener := receivedPacket.listener
    payload }

/-- The `switch` over the sample's message type. -/
def countType (metrics : SensorSampleProcessorMetrics) (type : MessageType) :
    SensorSampleProcessorMetrics :=
  if type = .kImu then { metrics with imuSamples := metrics.imuSamples + 1 }
  else if type = .kGnss then { metrics with gnssSamples := metrics.gnssSamples + 1 }
  else if type = .kCameraMeta then
    { metrics with cameraMetaSamples := metrics.cameraMetaSamples + 1 }
  else metrics

/-- One step of `process`; `throws` tells how a handler that is running ends. A read outside the
payload would have no step. -/
def advance (metrics : SensorSampleProcessorMetrics) (receivedPacket : ReceivedPacket)
    (throws : Bool) : Call → Option (SensorSampleProcessorMetrics × Call × CallEvent)
  | .entered =>
    some ({ metrics with packetsExamined := metrics.packetsExamined + 1 }, .examined, .examined)
  | .examined => do
    let decoded ← decodeSensorPayload receivedPacket.packet.header.messageType
      receivedPacket.packet.payload
    match decoded.payload with
    | none =>
      some ({ metrics with payloadsRejected := metrics.payloadsRejected + 1 },
        .returned decoded.error, .rejected)
    | some payload =>
      some ({ metrics with samplesDecoded := metrics.samplesDecoded + 1 },
        .decoded (makeSample receivedPacket payload), .decoded)
  | .decoded sample =>
    some (countType metrics sample.payload.messageType, .counted sample, .counted sample)
  | .counted sample => some (metrics, .handling sample, .handlerInvoked sample)
  | .handling _ =>
    if throws then some (metrics, .threw, .handlerThrew)
    else some (metrics, .returned .kNone, .handlerReturned)
  | .returned _ => none
  | .threw => none

end SensorSampleProcessor

open SensorSampleProcessor (Call CallEvent)

/-- The processor, with the calls that were made of it, by any threads. -/
structure SensorSampleProcessor where
  metrics : SensorSampleProcessorMetrics := {}
  calls : List (ReceivedPacket × Call) := []
  deriving DecidableEq, Repr

namespace SensorSampleProcessor

inductive Action where
  /-- Some thread calls `process`. -/
  | call (receivedPacket : ReceivedPacket)
  /-- A call goes on by one step. -/
  | advance (index : Nat) (throws : Bool)
  deriving DecidableEq, Repr

inductive Event where
  | called (receivedPacket : ReceivedPacket)
  | advanced (index : Nat) (event : CallEvent)
  deriving DecidableEq, Repr

def perform (processor : SensorSampleProcessor) :
    Action → Option (SensorSampleProcessor × Event)
  | .call receivedPacket =>
    some ({ processor with calls := processor.calls ++ [(receivedPacket, .entered)] },
      .called receivedPacket)
  | .advance index throws => do
    let (receivedPacket, call) ← processor.calls[index]?
    let (metrics, call, event) ← SensorSampleProcessor.advance processor.metrics receivedPacket
      throws call
    some ({ metrics, calls := processor.calls.set index (receivedPacket, call) },
      .advanced index event)

/-- The processor under every interleaving of its calls. -/
def system : System SensorSampleProcessor Event where
  initial processor := ∃ metrics, make true = .ok metrics ∧ processor = { metrics }
  step processor event next := ∃ action, processor.perform action = some (next, event)

end SensorSampleProcessor

end Driveflow.Runtime

import Driveflow.Net.UdpSocket
import Driveflow.Protocol.SensorPayload

/-!
# The sensor simulator

`sensor_simulator.hpp` and `sensor_simulator.cpp` from the validation of a configuration to the end
of a run: the samples, the fault injector with its one-slot buffer, the sender, and the loop.

What a run is told from outside is a parameter. The stop predicate is the list of its answers, call
by call, so that it can change its mind at any point where the sources ask it. The clock decides
two things: the timestamps, which are given, and how often a wait finds its deadline still ahead,
which is given too. A continuous run need not end, so `runSimulator` takes the number of passes it
may make through its loop.
-/

namespace Driveflow.Simulator

open Library Net Protocol

/-! ## Configuration -/

inductive SensorType where
  | kImu
  | kGnss
  | kCameraMeta
  deriving DecidableEq, Repr

structure PeriodicDelay where
  every : BitVec 64 := 0
  /-- In milliseconds. -/
  duration : Int := 0
  deriving DecidableEq, Repr

structure FaultInjectionConfig where
  dropEvery : Option (BitVec 64) := none
  duplicateEvery : Option (BitVec 64) := none
  reorderEvery : Option (BitVec 64) := none
  delay : Option PeriodicDelay := none
  corruptEvery : Option (BitVec 64) := none
  deriving DecidableEq, Repr

structure SimulatorConfig where
  sensorType : SensorType := .kImu
  destination : Ipv4Endpoint := {}
  /-- The exact value of the `double`; an infinity or a NaN has none. -/
  rateHz : Option ℚ := some 0
  packetCount : Option (BitVec 64) := none
  cameraExtraDataBytes : Nat := 0
  faults : FaultInjectionConfig := {}
  deriving DecidableEq, Repr

structure SimulationSummary where
  packetsGenerated : BitVec 64 := 0
  packetsSent : BitVec 64 := 0
  packetsDropped : BitVec 64 := 0
  duplicatePacketsSent : BitVec 64 := 0
  reorderEvents : BitVec 64 := 0
  delayedPackets : BitVec 64 := 0
  corruptedPacketsSent : BitVec 64 := 0
  deriving DecidableEq, Repr

def kMaximumRateHz : ℚ := 1000000
def kMaximumFaultDelay : Int := 60000

def isIpv4Address (calls : SocketCalls) (text : String) : Bool := (calls.inetPton text).isSome

def validateInterval (interval : Option (BitVec 64)) (name : String) : Except Exception Unit :=
  if interval = some 0 then .error (.invalidArgument (name ++ " must be positive")) else .ok ()

def validateDelay (delay : Option PeriodicDelay) : Except Exception Unit :=
  match delay with
  | none => .ok ()
  | some delay =>
    if delay.every = 0 then .error (.invalidArgument "delay interval must be positive")
    else if delay.duration ≤ 0 ∨ delay.duration > kMaximumFaultDelay then
      .error (.invalidArgument "delay must be between 1 and 60000 milliseconds")
    else .ok ()

/-- The rate check: `none` fails `isfinite`. -/
def rateAllowed (rateHz : Option ℚ) : Bool :=
  match rateHz with
  | none => false
  | some rateHz => !(decide (rateHz ≤ 0) || decide (rateHz > kMaximumRateHz))

def validateRuntimeConfig (calls : SocketCalls) (config : SimulatorConfig) :
    Except Exception Unit := do
  let knownSensor := config.sensorType = .kImu ∨ config.sensorType = .kGnss ∨
    config.sensorType = .kCameraMeta
  if ¬ knownSensor then
    .error (.invalidArgument "unknown sensor type")
  else if !isIpv4Address calls config.destination.address then
    .error (.invalidArgument "destination must be an IPv4 address")
  else if config.destination.port = 0 then
    .error (.invalidArgument "destination port must be between 1 and 65535")
  else if !rateAllowed config.rateHz then
    .error (.invalidArgument "rate must be greater than 0 and no more than 1000000 Hz")
  else if config.packetCount = some 0 then
    .error (.invalidArgument "packet count must be positive")
  else if config.cameraExtraDataBytes > kMaxCameraExtraDataSize then
    .error (.invalidArgument "camera extra data exceeds the protocol payload limit")
  else if config.sensorType ≠ .kCameraMeta ∧ config.cameraExtraDataBytes ≠ 0 then
    .error (.invalidArgument "camera extra data is only valid for CameraMeta")
  else do
    validateInterval config.faults.dropEvery "drop interval"
    validateInterval config.faults.duplicateEvery "duplicate interval"
    validateInterval config.faults.reorderEvery "reorder interval"
    validateInterval config.faults.corruptEvery "corrupt interval"
    validateDelay config.faults.delay

/-! ## Samples -/

/-- `make_sensor_sample`. The decimal constants are the bit patterns they round to. -/
def makeSensorSample (sensorType : SensorType) (sequenceNumber : BitVec 64)
    (cameraExtraBytes : Nat) : SensorPayload :=
  match sensorType with
  | .kCameraMeta => .cameraMeta
    { frameId := sequenceNumber
      width := 1920
      height := 1080
      exposureTimeUs := 8000
      extraData := (List.range cameraExtraBytes).map fun index => BitVec.ofNat 8 (index % 256) }
  | .kGnss => .gnssFix
    { latitudeDeg := ⟨0x403f3afb7e90ff97#64⟩ -- 31.2304
      longitudeDeg := ⟨0x405e5e5119ce075f#64⟩ -- 121.4737
      altitudeM := ⟨0x4010000000000000#64⟩ -- 4.0
      horizontalAccuracyM := ⟨0x3fc00000#32⟩ -- 1.5
      verticalAccuracyM := ⟨0x40200000#32⟩ } -- 2.5
  | .kImu => .imuSample
    { linearAccelerationMps2 := { x := ⟨0#32⟩, y := ⟨0#32⟩, z := ⟨0x411cf5c3#32⟩ } -- 9.81
      angularVelocityRps := -- 0.01, -0.02, 0.03
        { x := ⟨0x3c23d70a#32⟩, y := ⟨0xbca3d70a#32⟩, z := ⟨0x3cf5c28f#32⟩ } }

/-- The encoded packet of one pass of the loop, before any fault. -/
def encodeSample (config : SimulatorConfig) (sequenceNumber timestampNs : BitVec 64) :
    Except Exception Bytes := do
  let sample := makeSensorSample config.sensorType sequenceNumber config.cameraExtraDataBytes
  let payload ← encodeSensorPayload sample
  encodePacket sample.messageType sequenceNumber timestampNs payload

/-! ## Fault injection -/

def matchesInterval (interval : Option (BitVec 64)) (sequenceNumber : BitVec 64) : Bool :=
  match interval with
  | none => false
  | some interval => sequenceNumber % interval = 0

structure PendingPacket where
  bytes : Bytes := []
  duplicate : Bool := false
  corrupted : Bool := false
  /-- In milliseconds. -/
  delay : Int := 0
  deriving DecidableEq, Repr

structure InjectionBatch where
  packets : List PendingPacket := []
  packetsDropped : BitVec 64 := 0
  reorderEvents : BitVec 64 := 0
  deriving DecidableEq, Repr

/-- `held_packet_` and `has_held_packet_` are one optional packet. -/
structure FaultInjector where
  config : FaultInjectionConfig
  heldPacket : Option PendingPacket := none
  deriving DecidableEq, Repr

/-- `packet.bytes.back() ^= 0x01U`. -/
def flipLastByte (bytes : Bytes) : Bytes := bytes.modify (bytes.length - 1) (· ^^^ 0x01#8)

namespace FaultInjector

def delayFor (config : FaultInjectionConfig) (sequenceNumber : BitVec 64) : Int :=
  match config.delay with
  | none => 0
  | some delay => if sequenceNumber % delay.every = 0 then delay.duration else 0

/-- The packet `process` makes of the bytes it is given. -/
def pendingPacket (config : FaultInjectionConfig) (sequenceNumber : BitVec 64) (bytes : Bytes) :
    PendingPacket :=
  let corrupted := matchesInterval config.corruptEvery sequenceNumber
  { bytes := if corrupted && !bytes.isEmpty then flipLastByte bytes else bytes
    duplicate := matchesInterval config.duplicateEvery sequenceNumber
    corrupted
    delay := delayFor config sequenceNumber }

def process (injector : FaultInjector) (sequenceNumber : BitVec 64) (bytes : Bytes) :
    InjectionBatch × FaultInjector :=
  if matchesInterval injector.config.dropEvery sequenceNumber then
    ({ packetsDropped := 1 }, injector)
  else
    let packet := pendingPacket injector.config sequenceNumber bytes
    match injector.heldPacket with
    | some heldPacket =>
      ({ packets := [packet, heldPacket], reorderEvents := 1 }, { injector with heldPacket := none })
    | none =>
      if matchesInterval injector.config.reorderEvery sequenceNumber then
        ({}, { injector with heldPacket := some packet })
      else ({ packets := [packet] }, injector)

def finish (injector : FaultInjector) : InjectionBatch × FaultInjector :=
  match injector.heldPacket with
  | some heldPacket => ({ packets := [heldPacket] }, { injector with heldPacket := none })
  | none => ({}, injector)

end FaultInjector

/-! ## Sending -/

/-- A datagram that went out: the packet it carries, and whether it is the second copy. -/
structure SentDatagram where
  packet : PendingPacket
  duplicateCopy : Bool
  deriving DecidableEq, Repr

/-- The answers of the stop predicate, call by call. -/
abbrev StopPredicate := Nat → Bool

/-- What a run finds outside it. -/
structure Environment where
  calls : SocketCalls
  /-- `socket` returns a descriptor. -/
  opens : Bool := true
  /-- How often each wait finds its deadline still ahead. -/
  naps : Nat → Nat := fun _ => 0
  /-- What `current_timestamp_ns` returns, call by call. -/
  timestamps : Nat → BitVec 64 := fun _ => 0

/-- The summary of a run, and how much of the outside it has used. -/
structure Session where
  summary : SimulationSummary := {}
  sent : List SentDatagram := []
  stopCalls : Nat := 0
  waits : Nat := 0
  timestampsRead : Nat := 0
  deriving DecidableEq, Repr

namespace Session

/-- `stop_requested()`. -/
def stopRequested (session : Session) (stop : StopPredicate) : Bool × Session :=
  (stop session.stopCalls, { session with stopCalls := session.stopCalls + 1 })

/-- The loop of `wait_until_or_stop`, with the deadline ahead for so many rounds. -/
def waitRounds (stop : StopPredicate) : Nat → Session → Bool × Session
  | 0, session => session.stopRequested stop
  | ahead + 1, session =>
    let asked := session.stopRequested stop
    if asked.1 then asked else waitRounds stop ahead asked.2

def waitUntilOrStop (environment : Environment) (stop : StopPredicate) (session : Session) :
    Bool × Session :=
  waitRounds stop (environment.naps session.waits) { session with waits := session.waits + 1 }

/-- The injected delay of a packet. -/
def injectDelay (environment : Environment) (stop : StopPredicate) (packet : PendingPacket)
    (session : Session) : Bool × Session :=
  if packet.delay > 0 then
    waitUntilOrStop environment stop
      { session with summary :=
        { session.summary with delayedPackets := session.summary.delayedPackets + 1 } }
  else (false, session)

/-- The counters after one copy of a packet. -/
def countCopy (packet : PendingPacket) (duplicateCopy : Bool) (summary : SimulationSummary) :
    SimulationSummary :=
  { summary with
    packetsSent := summary.packetsSent + 1
    duplicatePacketsSent :=
      if duplicateCopy then summary.duplicatePacketsSent + 1 else summary.duplicatePacketsSent
    corruptedPacketsSent :=
      if packet.corrupted then summary.corruptedPacketsSent + 1
      else summary.corruptedPacketsSent }

def sendCopy (environment : Environment) (config : SimulatorConfig) (packet : PendingPacket)
    (duplicateCopy : Bool) (session : Session) : Except Exception Session := do
  sendTo environment.calls packet.bytes config.destination
  .ok { session with
    summary := countCopy packet duplicateCopy session.summary
    sent := session.sent ++ [{ packet, duplicateCopy }] }

def sendPacket (environment : Environment) (config : SimulatorConfig) (packet : PendingPacket)
    (session : Session) : Except Exception Session := do
  let session ← sendCopy environment config packet false session
  if packet.duplicate then sendCopy environment config packet true session else .ok session

/-- The loop of `send_batch`; `false` when it was stopped. -/
def sendPackets (environment : Environment) (config : SimulatorConfig) (stop : StopPredicate) :
    List PendingPacket → Session → Except Exception (Bool × Session)
  | [], session => .ok (true, session)
  | packet :: packets, session =>
    let asked := session.stopRequested stop
    if asked.1 then .ok (false, asked.2)
    else
      let delayed := injectDelay environment stop packet asked.2
      if delayed.1 then .ok (false, delayed.2)
      else do
        let session ← sendPacket environment config packet delayed.2
        sendPackets environment config stop packets session

def sendBatch (environment : Environment) (config : SimulatorConfig) (stop : StopPredicate)
    (batch : InjectionBatch) (session : Session) : Except Exception (Bool × Session) := do
  let (complete, session) ← sendPackets environment config stop batch.packets session
  if complete then
    .ok (true, { session with summary :=
      { session.summary with
        reorderEvents := session.summary.reorderEvents + batch.reorderEvents } })
  else .ok (false, session)

/-- The next packet is generated: the timestamp is read and the packet counted. -/
def generate (config : SimulatorConfig) (environment : Environment) (session : Session) :
    Except Exception (Bytes × Session) := do
  let sequenceNumber := session.summary.packetsGenerated + 1
  let timestampNs := environment.timestamps session.timestampsRead
  let packet ← encodeSample config sequenceNumber timestampNs
  .ok (packet, { session with
    timestampsRead := session.timestampsRead + 1
    summary := { session.summary with
      packetsGenerated := session.summary.packetsGenerated + 1 } })

end Session

/-! ## The run -/

/-- The local variables of `run_simulator`. -/
structure Simulation where
  injector : FaultInjector
  session : Session := {}
  deriving DecidableEq, Repr

namespace Simulation

/-- How a pass through the loop ends. -/
inductive Pass where
  | again
  | left (stopped : Bool)
  deriving DecidableEq, Repr

/-- The count is given and `packets_generated` has reached it. -/
def countReached (config : SimulatorConfig) (session : Session) : Bool :=
  match config.packetCount with
  | none => false
  | some packetCount => session.summary.packetsGenerated = packetCount

/-- The loop condition on the count. -/
def countAhead (config : SimulatorConfig) (session : Session) : Bool :=
  match config.packetCount with
  | none => true
  | some packetCount => session.summary.packetsGenerated < packetCount

/-- The body of the loop. -/
def pass (environment : Environment) (config : SimulatorConfig) (stop : StopPredicate)
    (simulation : Simulation) : Except Exception (Pass × Simulation) := do
  let sequenceNumber := simulation.session.summary.packetsGenerated + 1
  let (packet, session) ← simulation.session.generate config environment
  let (batch, injector) := simulation.injector.process sequenceNumber packet
  let session := { session with summary :=
    { session.summary with
      packetsDropped := session.summary.packetsDropped + batch.packetsDropped } }
  let (complete, session) ← session.sendBatch environment config stop batch
  if !complete then .ok (.left true, { injector, session })
  else if countReached config session then .ok (.left false, { injector, session })
  else
    let waited := session.waitUntilOrStop environment stop
    .ok (if waited.1 then .left true else .again, { injector, session := waited.2 })

/-- The loop, for at most so many passes; `again` is a loop that is still going. -/
def loop (environment : Environment) (config : SimulatorConfig) (stop : StopPredicate) :
    Nat → Simulation → Except Exception (Pass × Simulation)
  | 0, simulation => .ok (.again, simulation)
  | passes + 1, simulation =>
    let asked := simulation.session.stopRequested stop
    let simulation := { simulation with session := asked.2 }
    if asked.1 || !countAhead config simulation.session then .ok (.left false, simulation)
    else do
      match ← simulation.pass environment config stop with
      | (.again, simulation) => loop environment config stop passes simulation
      | (.left stopped, simulation) => .ok (.left stopped, simulation)

/-- After the loop: unless the run was stopped, what is held goes out. -/
def flush (environment : Environment) (config : SimulatorConfig) (stop : StopPredicate)
    (stopped : Bool) (simulation : Simulation) : Except Exception Session :=
  if stopped then .ok simulation.session
  else
    let asked := simulation.session.stopRequested stop
    if asked.1 then .ok asked.2
    else do
      let (_, session) ← asked.2.sendBatch environment config stop simulation.injector.finish.1
      .ok session

end Simulation

/-- What a run has come to: it has returned its summary, or it is in its loop. -/
inductive Outcome where
  | running (session : Session)
  | returned (session : Session)
  deriving DecidableEq, Repr

def Outcome.session : Outcome → Session
  | .running session => session
  | .returned session => session

/-- `run_simulator`, for at most so many passes through its loop. -/
def runSimulator (environment : Environment) (config : SimulatorConfig)
    (stopRequested : Option StopPredicate) (passes : Nat) : Except Exception Outcome := do
  validateRuntimeConfig environment.calls config
  match stopRequested with
  | none => .error (.invalidArgument "stop predicate must be callable")
  | some stop =>
    if !environment.opens then .error (.systemError "socket")
    else do
      let simulation : Simulation := { injector := { config := config.faults } }
      match ← simulation.loop environment config stop passes with
      | (.again, simulation) => .ok (.running simulation.session)
      | (.left stopped, simulation) =>
        let session ← simulation.flush environment config stop stopped
        .ok (.returned session)

end Driveflow.Simulator

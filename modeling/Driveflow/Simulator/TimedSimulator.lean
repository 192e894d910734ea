import Driveflow.Simulator.SendPeriod

/-!
# The simulator and its clock

`run_simulator` once more, now with the steady clock that `SensorSimulator` leaves to the outside.
Time is a count of nanoseconds. The machine decides how many go by before each reading of the clock
and each `sendto`. A sleep lasts until its wake-up; what it oversleeps goes by before the next
reading.

The program holds its times in signed 64-bit counts and never looks whether a sum of them still
fits. A run that reads or computes a count that does not fit ends there as `overflow`: what the
program does then is undefined. Deadlines of accepted rates do get there, if the period is long
enough.

Beside the variables of the program a timed session keeps a record: when each datagram went out, what
each call of `current_timestamp_ns` returned, how many rounds of each wait found the deadline ahead,
and how long the run slept between two questions to the stop predicate.
-/

namespace Driveflow.Simulator

open Library Net Protocol

/-- How a timed run fails: by an exception, or by a count of the clock that is no 64-bit integer. -/
inductive Failure where
  | threw (exception : Exception)
  | overflow
  deriving DecidableEq, Repr

/-- What throws in the untimed program throws in the timed one. -/
def raised {α : Type} (result : Except Exception α) : Except Failure α :=
  result.mapError .threw

@[simp] theorem raised_eq_ok {α : Type} {result : Except Exception α} {value : α} :
    raised result = .ok value ↔ result = .ok value := by
  cases result with
  | error exception => simp [raised, Except.mapError]
  | ok other => simp [raised, Except.mapError]

/-- A count that the clock can hold. -/
def Fits (count : Int) : Prop := -2 ^ 63 ≤ count ∧ count < 2 ^ 63

instance : DecidablePred Fits := fun _ => inferInstanceAs (Decidable (_ ∧ _))

/-- In nanoseconds. -/
def kStopPollInterval : Int := 10000000

/-- The nanoseconds of so many milliseconds. -/
def nanosecondsOf (milliseconds : Int) : Int := milliseconds * 1000000

/-- What a timed run finds outside it. -/
structure Machine where
  calls : SocketCalls
  /-- `socket` returns a descriptor. -/
  opens : Bool := true
  /-- The clock when the run begins. -/
  origin : Int := 0
  /-- How many nanoseconds go by on each occasion. -/
  elapse : Nat → Nat := fun _ => 0

/-- A datagram, and when it went out. -/
structure Departure where
  datagram : SentDatagram
  time : Int
  deriving DecidableEq, Repr

structure TimedSession where
  session : Session := {}
  /-- The last reading of the clock, or the end of the last sleep. -/
  now : Int
  /-- How often time has gone by. -/
  occasions : Nat := 0
  /-- The nanoseconds of the injected delays that were begun. -/
  delays : Int := 0
  departures : List Departure := []
  naps : List Nat := []
  timestamps : List (BitVec 64) := []
  /-- For each call of the stop predicate, how long the run has slept since the one before. -/
  sleeps : List Int := []
  /-- How long it has slept since the last one. -/
  slept : Int := 0
  deriving DecidableEq, Repr

namespace TimedSession

/-- Time goes by; `now` is what `SimulationClock::now()` returns after that. -/
def elapse (machine : Machine) (timed : TimedSession) : TimedSession :=
  { timed with
    now := timed.now + machine.elapse timed.occasions
    occasions := timed.occasions + 1 }

/-- `std::this_thread::sleep_until`. -/
def sleepUntil (wakeup : Int) (timed : TimedSession) : TimedSession :=
  { timed with
    now := max timed.now wakeup
    slept := timed.slept + (max timed.now wakeup - timed.now) }

/-- `stop_requested()`. -/
def stopRequested (stop : StopPredicate) (timed : TimedSession) : Bool × TimedSession :=
  let asked := timed.session.stopRequested stop
  (asked.1,
    { timed with session := asked.2, sleeps := timed.sleeps ++ [timed.slept], slept := 0 })

/-- A wait is over after so many rounds that found its deadline ahead. -/
def napped (rounds : Nat) (timed : TimedSession) : TimedSession :=
  { timed with naps := timed.naps ++ [rounds] }

/-- The wake-up of a round is ahead, not past the deadline, and at most one interval away. -/
theorem wakeup_bounds {reading deadline : Int} (ahead : reading < deadline) :
    reading < (if reading + kStopPollInterval > deadline then deadline
        else reading + kStopPollInterval) ∧
      (if reading + kStopPollInterval > deadline then deadline
        else reading + kStopPollInterval) ≤ deadline ∧
      (if reading + kStopPollInterval > deadline then deadline
        else reading + kStopPollInterval) ≤ reading + kStopPollInterval := by
  have hinterval : 0 < kStopPollInterval := by decide
  split <;> omega

/-- A sleep towards a deadline that is ahead leaves less of the way. -/
theorem remaining_lt {before reading deadline : Int} (later : before ≤ reading)
    (ahead : reading < deadline) :
    (deadline - max reading (if reading + kStopPollInterval > deadline then deadline
      else reading + kStopPollInterval)).toNat < (deadline - before).toNat := by
  have hwakeup := (wakeup_bounds ahead).1
  omega

/-- The loop of `wait_until_or_stop`. -/
def waitLoop (machine : Machine) (stop : StopPredicate) (deadline : Int) (rounds : Nat)
    (timed : TimedSession) : Except Failure (Bool × TimedSession) :=
  let asked := timed.stopRequested stop
  if asked.1 then .ok (true, asked.2.napped rounds)
  else
    let reading := asked.2.elapse machine
    if ¬ Fits reading.now then .error .overflow
    else if reading.now ≥ deadline then .ok (false, reading.napped rounds)
    else
      let wakeup := reading.now + kStopPollInterval
      if ¬ Fits wakeup then .error .overflow
      else
        let wakeup := if wakeup > deadline then deadline else wakeup
        waitLoop machine stop deadline (rounds + 1) (reading.sleepUntil wakeup)
termination_by (deadline - timed.now).toNat
decreasing_by
  exact remaining_lt (Int.le_add_of_nonneg_right (Int.natCast_nonneg _)) (not_le.mp ‹_›)

def waitUntilOrStop (machine : Machine) (stop : StopPredicate) (deadline : Int)
    (timed : TimedSession) : Except Failure (Bool × TimedSession) :=
  waitLoop machine stop deadline 0
    { timed with session := { timed.session with waits := timed.session.waits + 1 } }

/-- A delayed packet is counted, and the clock is read. -/
def beginDelay (machine : Machine) (packet : PendingPacket) (timed : TimedSession) :
    TimedSession :=
  elapse machine
    { timed with
      session := { timed.session with summary :=
        { timed.session.summary with
          delayedPackets := timed.session.summary.delayedPackets + 1 } }
      delays := timed.delays + nanosecondsOf packet.delay }

/-- The injected delay of a packet, from that reading on. -/
def injectDelay (machine : Machine) (stop : StopPredicate) (packet : PendingPacket)
    (timed : TimedSession) : Except Failure (Bool × TimedSession) :=
  if packet.delay > 0 then
    let reading := timed.beginDelay machine packet
    let deadline := reading.now + nanosecondsOf packet.delay
    if ¬ (Fits reading.now ∧ Fits deadline) then .error .overflow
    else reading.waitUntilOrStop machine stop deadline
  else .ok (false, timed)

def sendCopy (machine : Machine) (config : SimulatorConfig) (packet : PendingPacket)
    (duplicateCopy : Bool) (timed : TimedSession) : Except Failure TimedSession := do
  raised (sendTo machine.calls packet.bytes config.destination)
  let later := timed.elapse machine
  .ok { later with
    session := { later.session with
      summary := Session.countCopy packet duplicateCopy later.session.summary
      sent := later.session.sent ++ [{ packet, duplicateCopy }] }
    departures := later.departures ++
      [{ datagram := { packet, duplicateCopy }, time := later.now }] }

def sendPacket (machine : Machine) (config : SimulatorConfig) (packet : PendingPacket)
    (timed : TimedSession) : Except Failure TimedSession := do
  let timed ← sendCopy machine config packet false timed
  if packet.duplicate then sendCopy machine config packet true timed else .ok timed

/-- The loop of `send_batch`; `false` when it was stopped. -/
def sendPackets (machine : Machine) (config : SimulatorConfig) (stop : StopPredicate) :
    List PendingPacket → TimedSession → Except Failure (Bool × TimedSession)
  | [], timed => .ok (true, timed)
  | packet :: packets, timed =>
    let asked := timed.stopRequested stop
    if asked.1 then .ok (false, asked.2)
    else do
      let delayed ← injectDelay machine stop packet asked.2
      if delayed.1 then .ok (false, delayed.2)
      else do
        let timed ← sendPacket machine config packet delayed.2
        sendPackets machine config stop packets timed

def sendBatch (machine : Machine) (config : SimulatorConfig) (stop : StopPredicate)
    (batch : InjectionBatch) (timed : TimedSession) : Except Failure (Bool × TimedSession) := do
  let (complete, timed) ← sendPackets machine config stop batch.packets timed
  if complete then
    .ok (true, { timed with session := { timed.session with summary :=
      { timed.session.summary with
        reorderEvents := timed.session.summary.reorderEvents + batch.reorderEvents } } })
  else .ok (false, timed)

/-- The next packet is generated, with what `current_timestamp_ns` returns. -/
def generate (machine : Machine) (config : SimulatorConfig) (timed : TimedSession) :
    Except Failure (Bytes × TimedSession) :=
  let sequenceNumber := timed.session.summary.packetsGenerated + 1
  let reading := timed.elapse machine
  if ¬ Fits reading.now then .error .overflow
  else do
    let timestampNs := BitVec.ofInt 64 reading.now
    let packet ← raised (encodeSample config sequenceNumber timestampNs)
    .ok (packet, { reading with
      timestamps := reading.timestamps ++ [timestampNs]
      session := { reading.session with
        timestampsRead := reading.session.timestampsRead + 1
        summary := { reading.session.summary with
          packetsGenerated := reading.session.summary.packetsGenerated + 1 } } })

/-- The packets that a batch has dropped are counted. -/
def countDropped (batch : InjectionBatch) (timed : TimedSession) : TimedSession :=
  { timed with session := { timed.session with summary :=
    { timed.session.summary with
      packetsDropped := timed.session.summary.packetsDropped + batch.packetsDropped } } }

end TimedSession

/-- The local variables of `run_simulator`, the deadline among them. -/
structure TimedSimulation where
  injector : FaultInjector
  timed : TimedSession
  nextDeadline : BitVec 64
  deriving DecidableEq, Repr

namespace TimedSimulation

open Simulation

/-- The body of the loop. -/
def pass (machine : Machine) (config : SimulatorConfig) (period : BitVec 64)
    (stop : StopPredicate) (simulation : TimedSimulation) :
    Except Failure (Pass × TimedSimulation) := do
  let sequenceNumber := simulation.timed.session.summary.packetsGenerated + 1
  let (packet, timed) ← simulation.timed.generate machine config
  let (batch, injector) := simulation.injector.process sequenceNumber packet
  let (complete, timed) ← (timed.countDropped batch).sendBatch machine config stop batch
  if !complete then .ok (.left true, { simulation with injector, timed })
  else if countReached config timed.session then
    .ok (.left false, { simulation with injector, timed })
  else
    match advance simulation.nextDeadline period with
    | none => .error .overflow
    | some nextDeadline => do
      let waited ← timed.waitUntilOrStop machine stop nextDeadline.toInt
      .ok (if waited.1 then .left true else .again, { injector, timed := waited.2, nextDeadline })

/-- The loop, for at most so many passes; `again` is a loop that is still going. -/
def loop (machine : Machine) (config : SimulatorConfig) (period : BitVec 64)
    (stop : StopPredicate) : Nat → TimedSimulation → Except Failure (Pass × TimedSimulation)
  | 0, simulation => .ok (.again, simulation)
  | passes + 1, simulation =>
    let asked := simulation.timed.stopRequested stop
    let simulation := { simulation with timed := asked.2 }
    if asked.1 || !countAhead config simulation.timed.session then .ok (.left false, simulation)
    else do
      match ← simulation.pass machine config period stop with
      | (.again, simulation) => loop machine config period stop passes simulation
      | (.left stopped, simulation) => .ok (.left stopped, simulation)

/-- After the loop: unless the run was stopped, what is held goes out. -/
def flush (machine : Machine) (config : SimulatorConfig) (stop : StopPredicate) (stopped : Bool)
    (simulation : TimedSimulation) : Except Failure TimedSession :=
  if stopped then .ok simulation.timed
  else
    let asked := simulation.timed.stopRequested stop
    if asked.1 then .ok asked.2
    else do
      let (_, timed) ← asked.2.sendBatch machine config stop simulation.injector.finish.1
      .ok timed

end TimedSimulation

/-- What a timed run has come to. -/
inductive TimedOutcome where
  | running (timed : TimedSession)
  | returned (timed : TimedSession)
  deriving DecidableEq, Repr

def TimedOutcome.timed : TimedOutcome → TimedSession
  | .running timed => timed
  | .returned timed => timed

/-- `next_deadline` before the loop. -/
def Machine.start (machine : Machine) : Int := machine.origin + machine.elapse 0

/-- Before the loop, with the first reading of the clock. -/
def TimedSimulation.before (machine : Machine) (config : SimulatorConfig) : TimedSimulation where
  injector := { config := config.faults }
  timed := TimedSession.elapse machine { now := machine.origin }
  nextDeadline := BitVec.ofInt 64 machine.start

/-- `run_simulator` with its clock, for at most so many passes through its loop. `period` is what
the `duration_cast` of `1.0 / rate_hz` gives, however that division has rounded. -/
def runTimed (machine : Machine) (config : SimulatorConfig) (period : BitVec 64)
    (stopRequested : Option StopPredicate) (passes : Nat) : Except Failure TimedOutcome := do
  raised (validateRuntimeConfig machine.calls config)
  match stopRequested with
  | none => .error (.threw (.invalidArgument "stop predicate must be callable"))
  | some stop =>
    if !machine.opens then .error (.threw (.systemError "socket"))
    else if ¬ Fits machine.start then .error .overflow
    else do
      match ← (TimedSimulation.before machine config).loop machine config period stop passes with
      | (.again, simulation) => .ok (.running simulation.timed)
      | (.left stopped, simulation) =>
        let timed ← simulation.flush machine config stop stopped
        .ok (.returned timed)

end Driveflow.Simulator

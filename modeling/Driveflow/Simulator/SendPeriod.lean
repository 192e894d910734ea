import Mathlib.Data.Rat.Floor
import Driveflow.Simulator.SensorSimulator

/-!
# The deadlines of the simulator

`run_simulator` paces its loop by a deadline that it moves on by one period in every pass. Both are
counts of a steady clock, in signed 64-bit nanoseconds. The rate is taken at its exact value;
`none` is what the language leaves undefined.
-/

namespace Driveflow.Simulator

/-- A conversion to an integer cuts the fraction off. -/
def truncate (value : ℚ) : Int := if 0 ≤ value then ⌊value⌋ else ⌈value⌉

/-- The `duration_cast` of `1.0 / rate_hz` seconds to ticks of the clock. A value whose integral
part is no 64-bit count must not be converted. -/
def sendPeriod (rateHz : ℚ) : Option (BitVec 64) :=
  let ticks := truncate (1 / rateHz * 1000000000)
  if -2 ^ 63 ≤ ticks ∧ ticks < 2 ^ 63 then some (BitVec.ofInt 64 ticks) else none

/-- `next_deadline += period`, which must not overflow. -/
def advance (deadline period : BitVec 64) : Option (BitVec 64) :=
  if deadline.saddOverflow period then none else some (deadline + period)

/-- `next_deadline` after so many passes through the loop. -/
def deadlineAfter (period start : BitVec 64) : Nat → Option (BitVec 64)
  | 0 => some start
  | passes + 1 => (deadlineAfter period start passes).bind (advance · period)

end Driveflow.Simulator

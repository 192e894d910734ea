import Driveflow.Laws.Simulator.CommandLine
import Driveflow.Laws.Simulator.Summary
import Driveflow.Simulator.SendPeriod

/-!
# The send period

The validator and the parser bound the rate from above, so a period is never shorter than a
microsecond. They do not bound it from below: the period of a rate close enough to zero is no 64-bit
count of nanoseconds (`slowest_undefined`), and a little above that it is one that no deadline can
be moved on by. The accepted rates whose periods are good for every deadline are those above `10⁹ /
(2⁶² + 1)` (`representable_iff`).
-/

namespace Driveflow.Simulator

open Net

/-- **The period can be used**: it is a positive count, every deadline below `2 ^ 62` can be moved
on by it, and so the deadline goes up in every pass of the loop. -/
def Representable (rateHz : ℚ) : Prop :=
  ∃ period, sendPeriod rateHz = some period ∧ 1 ≤ period.toInt ∧ period.toInt ≤ 2 ^ 63 - 1 ∧
    (∀ deadline : BitVec 64, deadline.toInt < 2 ^ 62 → ∃ next,
      advance deadline period = some next ∧ next.toInt = deadline.toInt + period.toInt) ∧
    ∀ start passes deadline, deadlineAfter period start passes = some deadline →
      deadline.toInt < 2 ^ 62 → ∃ next,
        deadlineAfter period start (passes + 1) = some next ∧ deadline.toInt < next.toInt

/-! ## The period -/

section Period

variable {rateHz : ℚ}

theorem truncate_eq_floor (positive : 0 < rateHz) :
    truncate (1 / rateHz * 1000000000) = ⌊1 / rateHz * 1000000000⌋ := by
  have hnonneg : 0 ≤ 1 / rateHz * 1000000000 := by positivity
  exact if_pos hnonneg

/-- No accepted rate has a period under a microsecond. -/
theorem microsecond_le_floor (positive : 0 < rateHz) (bounded : rateHz ≤ kMaximumRateHz) :
    1000 ≤ ⌊1 / rateHz * 1000000000⌋ := by
  have hbounded : rateHz ≤ 1000000 := bounded
  rw [Int.le_floor, one_div_mul_eq_div, le_div_iff₀ positive]
  push_cast
  linarith

theorem floor_le_iff (positive : 0 < rateHz) :
    ⌊1 / rateHz * 1000000000⌋ ≤ 2 ^ 62 ↔ 1000000000 < rateHz * (2 ^ 62 + 1) := by
  rw [← Int.lt_add_one_iff, Int.floor_lt, one_div_mul_eq_div, div_lt_iff₀ positive, mul_comm]
  norm_num

/-- The period is the whole part of the exact one, if that is representable. -/
theorem sendPeriod_eq_some_iff (positive : 0 < rateHz) {period : BitVec 64} :
    sendPeriod rateHz = some period ↔ ⌊1 / rateHz * 1000000000⌋ = period.toInt := by
  have hnonneg : 0 ≤ ⌊1 / rateHz * 1000000000⌋ := Int.floor_nonneg.mpr (by positivity)
  unfold sendPeriod
  dsimp only
  rw [truncate_eq_floor positive]
  constructor
  · intro h
    split at h
    next hrange =>
      cases h
      exact (BitVec.toInt_ofInt_eq_self (by decide) hrange.1 hrange.2).symm
    · cases h
  · intro h
    rw [h, if_pos ⟨period.le_toInt, period.toInt_lt⟩, BitVec.ofInt_toInt]

end Period

/-! ## The deadlines -/

/-- A deadline and a period in the lower half of their range have a sum. -/
theorem advance_eq_some {deadline period : BitVec 64} (before : deadline.toInt < 2 ^ 62)
    (positive : 0 ≤ period.toInt) (short : period.toInt ≤ 2 ^ 62) :
    advance deadline period = some (deadline + period) ∧
      (deadline + period).toInt = deadline.toInt + period.toInt := by
  have hoverflow : ¬ deadline.saddOverflow period = true := by
    have hlow := deadline.le_toInt
    unfold BitVec.saddOverflow
    rw [Bool.or_eq_true, decide_eq_true_eq, decide_eq_true_eq]
    omega
  exact ⟨if_neg hoverflow, BitVec.toInt_add_of_not_saddOverflow hoverflow⟩

/-- The last deadline below `2 ^ 62` is not moved on by a longer period. -/
theorem short_of_advance {period next : BitVec 64}
    (h : advance (BitVec.ofInt 64 (2 ^ 62 - 1)) period = some next) : period.toInt ≤ 2 ^ 62 := by
  have hlast : (BitVec.ofInt 64 (2 ^ 62 - 1)).toInt = 2 ^ 62 - 1 := by decide
  unfold advance BitVec.saddOverflow at h
  rw [hlast] at h
  split at h
  · cases h
  next hfits =>
    rw [Bool.or_eq_true, decide_eq_true_eq, decide_eq_true_eq, not_or] at hfits
    omega

/-- **The rates whose period can be used.** -/
theorem representable_iff {rateHz : ℚ} (positive : 0 < rateHz)
    (bounded : rateHz ≤ kMaximumRateHz) :
    Representable rateHz ↔ 1000000000 < rateHz * (2 ^ 62 + 1) := by
  have hmicrosecond := microsecond_le_floor positive bounded
  rw [← floor_le_iff positive]
  constructor
  · rintro ⟨period, hperiod, _, _, hadvance, _⟩
    obtain ⟨next, hnext, _⟩ := hadvance (BitVec.ofInt 64 (2 ^ 62 - 1)) (by decide)
    rw [(sendPeriod_eq_some_iff positive).mp hperiod]
    exact short_of_advance hnext
  · intro hshort
    obtain ⟨period, hperiod⟩ : ∃ period : BitVec 64,
        ⌊1 / rateHz * 1000000000⌋ = period.toInt :=
      ⟨BitVec.ofInt 64 _, (BitVec.toInt_ofInt_eq_self (by decide) (by omega) (by omega)).symm⟩
    rw [hperiod] at hmicrosecond hshort
    have hstep (deadline : BitVec 64) (hbefore : deadline.toInt < 2 ^ 62) :=
      advance_eq_some hbefore (by omega) hshort
    refine ⟨period, (sendPeriod_eq_some_iff positive).mpr hperiod, by omega, by omega,
      fun deadline hbefore => ⟨_, hstep deadline hbefore⟩, fun start passes deadline h hbefore => ?_⟩
    obtain ⟨hadvance, hnext⟩ := hstep deadline hbefore
    refine ⟨deadline + period, ?_, by omega⟩
    rw [deadlineAfter, h, Option.bind_some, hadvance]

/-- An accepted rate is finite, positive and bounded. -/
theorem exists_rate_of_accepted {calls : SocketCalls} {config : SimulatorConfig}
    (accepted : Accepted calls config) :
    ∃ rateHz, config.rateHz = some rateHz ∧ 0 < rateHz ∧ rateHz ≤ kMaximumRateHz := by
  have hrate := accepted.rate
  unfold rateAllowed at hrate
  cases hvalue : config.rateHz with
  | none =>
    rw [hvalue] at hrate
    exact nomatch hrate
  | some rateHz =>
    rw [hvalue] at hrate
    dsimp only at hrate
    rw [Bool.not_eq_true', Bool.or_eq_false_iff, decide_eq_false_iff_not,
      decide_eq_false_iff_not] at hrate
    exact ⟨rateHz, rfl, not_le.mp hrate.1, not_lt.mp hrate.2⟩

/-- **The send period of an accepted configuration, from the validator or the parser, is
representable exactly if its rate is above `10⁹ / (2⁶² + 1)` hertz**, some 2.2 · 10⁻¹⁰. -/
theorem sendPeriod_representable_iff {calls : SocketCalls} {fromCharsDouble : FromCharsDouble}
    {config : SimulatorConfig}
    (accepted : validateRuntimeConfig calls config = .ok () ∨
      ∃ arguments, parseSimulatorConfig calls fromCharsDouble arguments = .ok config) :
    ∃ rateHz, config.rateHz = some rateHz ∧ 0 < rateHz ∧ rateHz ≤ kMaximumRateHz ∧
      (Representable rateHz ↔ 1000000000 < rateHz * (2 ^ 62 + 1)) := by
  have hconfig : Accepted calls config := by
    rcases accepted with hvalid | ⟨arguments, hparsed⟩
    · exact validateRuntimeConfig_iff.mp hvalid
    · exact accepted_of_parsed hparsed
  obtain ⟨rateHz, hrate, hpositive, hbounded⟩ := exists_rate_of_accepted hconfig
  exact ⟨rateHz, hrate, hpositive, hbounded, representable_iff hpositive hbounded⟩

/-- A thousand packets in a second. -/
theorem sendPeriod_representable_iff_eightPackets :
    ∃ rateHz, eightPackets.rateHz = some rateHz ∧ 0 < rateHz ∧ rateHz ≤ kMaximumRateHz ∧
      (Representable rateHz ↔ 1000000000 < rateHz * (2 ^ 62 + 1)) :=
  @sendPeriod_representable_iff loopback.calls (fun _ => none) eightPackets
    (.inl eightPackets_accepted)

/-- A `from_chars` that reads one number, 2⁻³⁴. -/
def readSlowest : FromCharsDouble := fun text =>
  if text = "5.82076609134674072265625e-11".toList then some (some (1 / 2 ^ 34), []) else none

/-- A packet in five centuries: the parser and the validator accept the rate, and the period is more
nanoseconds than 63 bits hold. -/
theorem slowest_undefined :
    ∃ config, parseSimulatorConfig loopback.calls readSlowest
        ["--sensor", "imu", "--rate-hz", "5.82076609134674072265625e-11"] = .ok config ∧
      validateRuntimeConfig loopback.calls config = .ok () ∧
      config.rateHz = some (1 / 2 ^ 34) ∧ sendPeriod (1 / 2 ^ 34) = none ∧
      ¬ Representable (1 / 2 ^ 34) := by
  have hparsed : parseSimulatorConfig loopback.calls readSlowest
      ["--sensor", "imu", "--rate-hz", "5.82076609134674072265625e-11"] =
      .ok { destination := { address := "127.0.0.1", port := 9000 }
            rateHz := some (1 / 2 ^ 34) } := by decide +kernel
  have hperiod : sendPeriod (1 / 2 ^ 34) = none := by decide +kernel
  refine ⟨_, hparsed, validateRuntimeConfig_iff.mpr (accepted_of_parsed hparsed), rfl, hperiod, ?_⟩
  rintro ⟨period, hsome, _⟩
  rw [hperiod] at hsome
  cases hsome

end Driveflow.Simulator

import Mathlib
import Driveflow.Library.ShiftRegister

/-!
# Shift registers divide polynomials

A word is a polynomial over the field of two elements, its lowest bit the constant coefficient. A
reflected register holds its polynomial upside down (`reading`): one clock multiplies it by `X` and
takes the remainder by the generator (`mk_reading_step`), and a register that was fed a byte string
holds the remainder of the string's polynomial, shifted up by the width, plus what it started with,
shifted up by the string (`reading_feed`).

The calculations are made in the ring of polynomials modulo the generator, where a clock is a
multiplication.
-/

namespace Driveflow.Library.ShiftRegister

open Polynomial

variable {w : Nat}

/-- The bits of a word as coefficients. -/
noncomputable def ofBits {n : Nat} (word : BitVec n) : (ZMod 2)[X] :=
  ∑ i ∈ Finset.range n, if word.getLsbD i then X ^ i else 0

/-- The word of the coefficients below `n`. -/
noncomputable def toWord (n : Nat) (p : (ZMod 2)[X]) : BitVec n :=
  BitVec.ofFnLE fun i : Fin n => decide (p.coeff i = 1)

/-- What a reflected register holds: its top bit is the constant coefficient. -/
noncomputable def reading (state : BitVec w) : (ZMod 2)[X] := ofBits state.reverse

/-- The generator of a register, whose fed-back word leaves the top coefficient out. -/
noncomputable def generator (poly : BitVec w) : (ZMod 2)[X] := X ^ w + reading poly

/-- A byte string as a polynomial: the bytes from the top down, each of them reflected. -/
noncomputable def message : Bytes → (ZMod 2)[X]
  | [] => 0
  | byte :: bytes => ofBits byte.reverse * X ^ (8 * bytes.length) + message bytes

/-! ## Coefficients -/

/-- The coefficient of degree `k` is bit `k`, and there is none behind the last bit. -/
theorem coeff_ofBits {n : Nat} (word : BitVec n) (k : Nat) :
    (ofBits word).coeff k = if word.getLsbD k then 1 else 0 := by
  have hterm (i : Nat) : (if word.getLsbD i then X ^ i else (0 : (ZMod 2)[X])).coeff k =
      if k = i then (if word.getLsbD k then 1 else 0) else 0 := by
    by_cases hki : k = i
    · subst hki
      rw [if_pos rfl]
      split
      · exact coeff_X_pow_self k
      · exact coeff_zero k
    · rw [if_neg hki]
      split
      · rw [coeff_X_pow, if_neg hki]
      · exact coeff_zero k
  rw [ofBits, finsetSum_coeff, Finset.sum_congr rfl fun i _ => hterm i, Finset.sum_ite_eq]
  split
  · rfl
  next hout =>
    rw [BitVec.getLsbD_of_ge word k (Nat.le_of_not_lt fun hlt => hout (Finset.mem_range.mpr hlt))]
    rfl

/-- The coefficient of degree `k` is bit `k` of the register counted from the top. -/
theorem coeff_reading (state : BitVec w) (k : Nat) :
    (reading state).coeff k = if state.getMsbD k then 1 else 0 := by
  rw [reading, coeff_ofBits, BitVec.getLsbD_reverse]

/-- A word is read back from its polynomial. -/
theorem toWord_ofBits {n : Nat} (word : BitVec n) : toWord n (ofBits word) = word := by
  refine BitVec.eq_of_getLsbD_eq fun i hi => ?_
  rw [toWord, BitVec.getLsbD_ofFnLE, dif_pos hi, coeff_ofBits]
  cases word.getLsbD i <;> decide

/-- A word of `n` bits is a polynomial of degree below `n`. -/
theorem degree_ofBits_lt {n : Nat} (word : BitVec n) : (ofBits word).degree < n := by
  refine (degree_lt_iff_coeff_zero _ _).mpr fun k hk => ?_
  rw [coeff_ofBits, BitVec.getLsbD_of_ge word k hk]
  rfl

/-- The top coefficient that the fed-back word leaves out is one. -/
theorem generator_monic (poly : BitVec w) : (generator poly).Monic :=
  monic_X_pow_add (degree_ofBits_lt poly.reverse)

/-- The degree of the generator is the width of the register. -/
theorem degree_generator (poly : BitVec w) : (generator poly).degree = w := by
  rw [generator, degree_add_eq_left_of_degree_lt (by
    rw [degree_X_pow]
    exact degree_ofBits_lt poly.reverse), degree_X_pow]

private theorem ite_xor (a b : Bool) :
    (if a ^^ b then 1 else 0 : ZMod 2) = (if a then 1 else 0) + if b then 1 else 0 := by
  cases a <;> cases b <;> decide

/-- Exclusive or of registers adds their polynomials. -/
theorem reading_xor (a b : BitVec w) : reading (a ^^^ b) = reading a + reading b := by
  ext k
  rw [coeff_add, coeff_reading, coeff_reading, coeff_reading, BitVec.getMsbD_xor]
  exact ite_xor _ _

/-! ## A clock is a multiplication -/

/-- A shift to the right is a multiplication whose top coefficient falls out. -/
theorem reading_ushiftRight_add (state : BitVec w) :
    reading (state >>> 1) + (if state.getLsbD 0 then X ^ w else 0) = X * reading state := by
  ext k
  rw [coeff_add, coeff_reading, BitVec.getMsbD_ushiftRight]
  have hfallen : (if state.getLsbD 0 then X ^ w else (0 : (ZMod 2)[X])).coeff k =
      if k = w ∧ state.getLsbD 0 then 1 else 0 := by
    cases state.getLsbD 0 with
    | false => rw [if_neg Bool.false_ne_true, coeff_zero, if_neg fun h => Bool.false_ne_true h.2]
    | true =>
      rw [if_pos rfl, coeff_X_pow]
      exact if_congr (and_iff_left rfl).symm rfl rfl
  rw [hfallen]
  cases k with
  | zero =>
    have hempty : ¬ (0 = w ∧ state.getLsbD 0 = true) := by
      rintro ⟨rfl, hlow⟩
      rw [BitVec.getLsbD_of_ge state 0 (Nat.le_refl 0)] at hlow
      exact Bool.false_ne_true hlow
    have hhigh : (decide (0 < w) && (!decide (0 < 1) && state.getMsbD (0 - 1))) = false :=
      Bool.and_false _
    rw [mul_coeff_zero, coeff_X_zero, zero_mul, hhigh, if_neg Bool.false_ne_true, if_neg hempty,
      zero_add]
  | succ k =>
    rw [coeff_X_mul, coeff_reading, Nat.add_sub_cancel]
    by_cases hk : k + 1 = w
    · have hlow : state.getMsbD k = state.getLsbD 0 := by
        subst hk
        rw [BitVec.getMsbD_eq_getLsbD, decide_eq_true (Nat.lt_succ_self k), Bool.true_and,
          Nat.add_sub_cancel, Nat.sub_self]
      simp [hk, hlow]
    · have hin : k < w ↔ k + 1 < w := by omega
      by_cases hlt : k + 1 < w
      · simp [hk, hlt]
      · have hout : ¬ k < w := fun h => hlt (hin.mp h)
        simp [hk, hlt, BitVec.getMsbD_of_ge state k (Nat.le_of_not_lt hout)]

variable (poly : BitVec w)

/-- **A clock multiplies by `X`**, modulo the generator. -/
theorem mk_reading_step (state : BitVec w) :
    AdjoinRoot.mk (generator poly) (reading (step poly state)) =
      AdjoinRoot.mk (generator poly) (X * reading state) := by
  have hshift := reading_ushiftRight_add state
  refine AdjoinRoot.mk_eq_mk.mpr ?_
  rw [← hshift, step]
  cases state.getLsbD 0 with
  | false =>
    rw [if_neg Bool.false_ne_true, if_neg Bool.false_ne_true, add_zero, sub_self]
    exact dvd_zero _
  | true =>
    -- what was fed back and what fell out add up to the generator
    rw [if_pos rfl, if_pos rfl, reading_xor, add_sub_add_left_eq_sub, CharTwo.sub_eq_add, add_comm]
    exact dvd_refl _

/-- Modulo the generator, clocking `n` times multiplies by `X ^ n`. -/
theorem mk_reading_iterate (state : BitVec w) (n : Nat) :
    AdjoinRoot.mk (generator poly) (reading ((step poly)^[n] state)) =
      AdjoinRoot.mk (generator poly) (X ^ n * reading state) := by
  induction n with
  | zero => rw [pow_zero, one_mul, Function.iterate_zero_apply]
  | succ n ih =>
    rw [Function.iterate_succ_apply', mk_reading_step, map_mul, ih, ← map_mul, ← mul_assoc,
      pow_succ']

/-! ## Bytes -/

/-- A byte enters a register at its low end, which is the top of the polynomial. -/
theorem reading_setWidth (wide : 8 ≤ w) (byte : Byte) :
    reading (byte.setWidth w) = X ^ (w - 8) * ofBits byte.reverse := by
  ext k
  rw [coeff_reading, coeff_X_pow_mul', coeff_ofBits, BitVec.getLsbD_reverse]
  by_cases hk : w - 8 ≤ k
  · rw [if_pos hk]
    refine if_congr ?_ rfl rfl
    rw [BitVec.getMsbD_eq_getLsbD, BitVec.getMsbD_eq_getLsbD, BitVec.getLsbD_setWidth]
    by_cases hlt : k < w
    · have hindex : 8 - 1 - (k - (w - 8)) = w - 1 - k := by omega
      rw [decide_eq_true hlt, decide_eq_true (by omega : k - (w - 8) < 8), hindex,
        decide_eq_true (by omega : w - 1 - k < w)]
      rw [Bool.true_and]
    · rw [decide_eq_false hlt, decide_eq_false (by omega : ¬ k - (w - 8) < 8)]
      rfl
  · have hhigh : (byte.setWidth w).getMsbD k = false := by
      rw [BitVec.getMsbD_eq_getLsbD, BitVec.getLsbD_setWidth,
        BitVec.getLsbD_of_ge byte (w - 1 - k) (by omega), Bool.and_false, Bool.and_false]
    rw [if_neg hk, hhigh]
    rfl

/-- Modulo the generator, feeding a byte multiplies by `X ^ 8` and adds `X ^ w` times the byte. -/
theorem mk_reading_feedByte (wide : 8 ≤ w) (state : BitVec w) (byte : Byte) :
    AdjoinRoot.mk (generator poly) (reading (feedByte poly state byte)) =
      AdjoinRoot.mk (generator poly) (X ^ 8 * reading state + X ^ w * ofBits byte.reverse) := by
  have hwidth : (X : (ZMod 2)[X]) ^ 8 * X ^ (w - 8) = X ^ w := by
    rw [← pow_add, Nat.add_sub_cancel' wide]
  rw [feedByte, mk_reading_iterate, reading_xor, reading_setWidth wide, mul_add, ← mul_assoc,
    hwidth]

/-- **A register that is fed takes up the message.** -/
theorem mk_reading_feed (wide : 8 ≤ w) (state : BitVec w) (bytes : Bytes) :
    AdjoinRoot.mk (generator poly) (reading (feed poly state bytes)) =
      AdjoinRoot.mk (generator poly)
        (X ^ w * message bytes + X ^ (8 * bytes.length) * reading state) := by
  induction bytes generalizing state with
  | nil => rw [feed_nil, message, mul_zero, zero_add, List.length_nil, mul_zero, pow_zero, one_mul]
  | cons byte bytes ih =>
    rw [feed_cons, ih, map_add, map_mul _ (X ^ (8 * bytes.length)), mk_reading_feedByte poly wide,
      ← map_mul, ← map_add, message, List.length_cons, Nat.mul_succ, pow_add]
    refine congrArg _ ?_
    ring

/-- **What a register holds is a remainder**: of the message, shifted up by the width, and what it
started with, shifted up by the message. -/
theorem reading_feed (wide : 8 ≤ w) (state : BitVec w) (bytes : Bytes) :
    reading (feed poly state bytes) =
      (X ^ w * message bytes + X ^ (8 * bytes.length) * reading state) %ₘ generator poly := by
  obtain ⟨quotient, hquotient⟩ :=
    AdjoinRoot.mk_eq_mk.mp (mk_reading_feed poly wide state bytes).symm
  refine (div_modByMonic_unique quotient _ (generator_monic poly) ⟨?_, ?_⟩).2.symm
  · rw [← hquotient]
    exact add_sub_cancel _ _
  · rw [degree_generator]
    exact degree_ofBits_lt _

end Driveflow.Library.ShiftRegister

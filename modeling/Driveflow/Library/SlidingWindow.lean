import Mathlib

/-!
# Serial numbers and a sliding window over them

Serial numbers wrap around. `position` unwraps one: it is the integer of that residue nearest to a
high-water mark, the exact antipode counting as behind it. A `History` is every position seen so
far with its high-water mark, without any bound; `Remembers` says that a fixed number of bits is a
faithful window on it: bit `k` is set exactly when the position `k` behind the mark was seen.
-/

namespace Driveflow.Library

/-! ## Unwrapping -/

namespace Serial

variable {w : Nat}

/-- The position of a serial number against a high-water mark, by its modular forward distance:
ahead of the mark below half the range, behind it from there on. -/
def position (high : Int) (number : BitVec w) : Int :=
  let distance := (number - BitVec.ofInt w high).toNat
  if distance < 2 ^ (w - 1) then high + distance else high - (2 ^ w - distance : Nat)

/-- A counter of `w` bits does not see a whole turn. -/
theorem ofInt_add_two_pow (x : Int) : BitVec.ofInt w (x + (2 ^ w : Nat)) = BitVec.ofInt w x := by
  apply BitVec.eq_of_toNat_eq
  rw [BitVec.toNat_ofInt, BitVec.toNat_ofInt, Int.add_emod_right]

/-- A position has the residue it was unwrapped from. -/
theorem ofInt_position (high : Int) (number : BitVec w) :
    BitVec.ofInt w (position high number) = number := by
  have hsum : BitVec.ofInt w (high + (number - BitVec.ofInt w high).toNat) = number := by
    rw [BitVec.ofInt_add, BitVec.ofInt_natCast, BitVec.ofNat_toNat, BitVec.setWidth_eq,
      BitVec.add_comm, BitVec.sub_add_cancel]
  unfold position
  dsimp only
  split
  · exact hsum
  · rw [← ofInt_add_two_pow]
    have hlt := (number - BitVec.ofInt w high).isLt
    have hcast : high - ((2 ^ w - (number - BitVec.ofInt w high).toNat : Nat) : Int) +
        (2 ^ w : Nat) = high + (number - BitVec.ofInt w high).toNat := by
      rw [Nat.cast_sub (Nat.le_of_lt hlt)]
      ring
    rw [hcast]
    exact hsum

/-- An integer within half the range of the mark is unwrapped to itself. -/
theorem position_ofInt {high p : Int} (low : high - (2 ^ (w - 1) : Nat) ≤ p)
    (small : p < high + (2 ^ (w - 1) : Nat)) (positive : 0 < w) :
    position high (BitVec.ofInt w p) = p := by
  have hhalf : 2 ^ w = 2 * 2 ^ (w - 1) := by
    rw [← Nat.pow_succ', Nat.succ_eq_add_one, Nat.sub_add_cancel positive]
  have hsub : BitVec.ofInt w p - BitVec.ofInt w high = BitVec.ofInt w (p - high) := by
    have h : BitVec.ofInt w _ = _ := BitVec.ofInt_add (p - high) high
    rw [Int.sub_add_cancel] at h
    rw [h, BitVec.add_sub_cancel]
  unfold position
  rw [hsub]
  dsimp only
  rw [BitVec.toNat_ofInt]
  rcases lt_or_ge p high with hlt | hge
  · -- behind the mark: the residue is the distance short of a full turn
    have hmod : (p - high) % (2 ^ w : Nat) = p - high + (2 ^ w : Nat) := by
      rw [← Int.add_emod_right]
      exact Int.emod_eq_of_lt (by omega) (by omega)
    rw [hmod]
    split <;> omega
  · have hmod : (p - high) % (2 ^ w : Nat) = p - high :=
      Int.emod_eq_of_lt (by omega) (by omega)
    rw [hmod]
    split <;> omega

end Serial

/-! ## Histories -/

/-- Every position seen so far, with the highest of them. -/
structure History where
  high : Int
  seen : List Int
  top : high ∈ seen
  bounded : ∀ p ∈ seen, p ≤ high

namespace History

/-- The history of one position. -/
def start (p : Int) : History :=
  { high := p
    seen := [p]
    top := List.mem_singleton_self p
    bounded := fun _ h => Int.le_of_eq (List.mem_singleton.mp h) }

/-- One more position. -/
def record (history : History) (p : Int) : History :=
  { high := max history.high p
    seen := p :: history.seen
    top := by
      rcases max_choice history.high p with h | h
      · rw [h]
        exact List.mem_cons_of_mem p history.top
      · rw [h]
        exact List.mem_cons_self
    bounded := by
      intro q h
      rcases List.mem_cons.mp h with rfl | h
      · exact le_max_right _ _
      · exact le_trans (history.bounded q h) (le_max_left _ _) }

/-- A position at or below the highest one leaves the highest one. -/
theorem high_record_of_le {history : History} {p : Int} (h : p ≤ history.high) :
    (history.record p).high = history.high := max_eq_left h

/-- A position at or above the highest one becomes the highest one. -/
theorem high_record_of_ge {history : History} {p : Int} (h : history.high ≤ p) :
    (history.record p).high = p := max_eq_right h

end History

/-! ## The window -/

/-- Bit `k` tells whether the position `k` behind the mark was seen. -/
def Remembers {w : Nat} (bits : BitVec w) (history : History) : Prop :=
  ∀ k : Nat, k < w → (bits.getLsbD k = true ↔ history.high - k ∈ history.seen)

namespace Remembers

variable {w : Nat} {bits : BitVec w} {history : History}

private theorem getLsbD_one_iff {k : Nat} (h : k < w) :
    (1#w).getLsbD k = true ↔ k = 0 := by
  rw [BitVec.getLsbD_one]
  simp only [Bool.and_eq_true, decide_eq_true_eq]
  omega

/-- The test of a bit by its mask. -/
theorem mask_ne_zero_iff {k : Nat} (h : k < w) :
    bits &&& 1#w <<< k ≠ 0#w ↔ bits.getLsbD k = true := by
  rw [← BitVec.twoPow_eq, BitVec.and_twoPow]
  cases hbit : bits.getLsbD k with
  | false => simp only [Bool.false_eq_true, ↓reduceIte, ne_eq, not_true_eq_false]
  | true =>
    simp only [↓reduceIte, ne_eq, iff_true]
    intro hzero
    have hset : (BitVec.twoPow w k).getLsbD k = _ := BitVec.getLsbD_twoPow k k
    rw [hzero, BitVec.getLsbD_zero] at hset
    simp only [h, decide_true, Bool.and_self, Bool.false_eq_true] at hset

/-- A fresh window remembers the one position seen. -/
theorem start (p : Int) : Remembers (1#w) (History.start p) := by
  intro k hk
  rw [getLsbD_one_iff hk]
  change k = 0 ↔ p - k ∈ [p]
  rw [List.mem_singleton]
  omega

/-- A step forward by less than the window shifts it. -/
theorem shift {d : Nat} (h : Remembers bits history) (positive : 0 < d) :
    Remembers (bits <<< d ||| 1#w) (history.record (history.high + d)) := by
  intro k hk
  rw [History.high_record_of_ge (by omega), BitVec.getLsbD_or, BitVec.getLsbD_shiftLeft,
    Bool.or_eq_true, getLsbD_one_iff hk]
  change _ ↔ history.high + d - k ∈ (history.high + d) :: history.seen
  rw [List.mem_cons]
  by_cases hkd : k < d
  · -- strictly between the old mark and the new one nothing was seen
    have hunseen : history.high + d - k ∉ history.seen := fun hmem => by
      have := history.bounded _ hmem
      omega
    simp only [hkd, decide_true, Bool.not_true, Bool.and_false, Bool.false_and,
      Bool.false_eq_true, false_or, hunseen, or_false]
    omega
  · have hold := h (k - d) (by omega)
    have hsame : history.high - (k - d : Nat) = history.high + d - k := by omega
    rw [hsame] at hold
    simp only [hk, hkd, decide_true, decide_false, Bool.not_false, Bool.and_self, Bool.true_and,
      hold]
    constructor
    · rintro (hmem | rfl)
      · exact Or.inr hmem
      · omega
    · rintro (heq | hmem)
      · omega
      · exact Or.inl hmem

/-- A step forward by the window or more empties it. -/
theorem reset {d : Nat} (large : w ≤ d) (positive : 0 < d) :
    Remembers (1#w) (history.record (history.high + d)) := by
  intro k hk
  rw [History.high_record_of_ge (by omega), getLsbD_one_iff hk]
  change _ ↔ history.high + d - k ∈ (history.high + d) :: history.seen
  have hunseen : history.high + d - k ∉ history.seen := fun hmem => by
    have := history.bounded _ hmem
    omega
  rw [List.mem_cons, or_iff_left hunseen]
  omega

/-- A late position sets its bit, if it has one. -/
theorem mark {d : Nat} (h : Remembers bits history) :
    Remembers (bits ||| 1#w <<< d) (history.record (history.high - d)) := by
  intro k hk
  rw [History.high_record_of_le (by omega), BitVec.getLsbD_or, Bool.or_eq_true, h k hk]
  change _ ↔ history.high - k ∈ (history.high - d) :: history.seen
  have hbit : ((1#w) <<< d).getLsbD k = true ↔ k = d := by
    rw [BitVec.getLsbD_shiftLeft]
    by_cases hkd : k < d
    · simp only [hkd, decide_true, Bool.not_true, Bool.and_false, Bool.false_and,
        Bool.false_eq_true, false_iff]
      omega
    · simp only [hk, hkd, decide_true, decide_false, Bool.not_false, Bool.and_self,
        Bool.true_and, getLsbD_one_iff (Nat.lt_of_le_of_lt (Nat.sub_le k d) hk)]
      omega
  have hpos : history.high - (k : Int) = history.high - d ↔ k = d := by omega
  rw [List.mem_cons, hbit, hpos, or_comm]

/-- A position behind the window leaves it alone. -/
theorem behind {d : Nat} (h : Remembers bits history) (outside : w ≤ d) :
    Remembers bits (history.record (history.high - d)) := by
  intro k hk
  rw [History.high_record_of_le (by omega), h k hk]
  change _ ↔ history.high - k ∈ (history.high - d) :: history.seen
  rw [List.mem_cons, or_iff_right]
  omega

/-- A position seen before leaves the window alone. -/
theorem again {p : Int} (h : Remembers bits history) (seen : p ∈ history.seen) :
    Remembers bits (history.record p) := by
  intro k hk
  rw [History.high_record_of_le (history.bounded p seen), h k hk]
  change _ ↔ history.high - k ∈ p :: history.seen
  rw [List.mem_cons, or_iff_right_of_imp]
  rintro heq
  rw [heq]
  exact seen

end Remembers

end Driveflow.Library

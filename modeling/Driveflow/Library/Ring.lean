import Mathlib

/-!
# A ring of cells

The items of a sequence are written to `N` cells in turn, item `i` to cell `i % N`, so the cells
hold the last `N` of them (`Holds`). Next to the cells stand how many of them are in use and which
one is written next. One more item keeps this (`Holds.push`); the oldest item that is still held is
in the first cell until the ring is full and in the next one from then on (`Holds.fromOldest`), and
the newest is always one behind the next (`Holds.newest`).
-/

namespace Driveflow.Library.Ring

variable {α : Type*} {N : Nat}

/-- The cells hold the last of the items. -/
structure Holds (cells : Vector α N) (count : Nat) (next : Fin N) (items : List α) : Prop where
  count_eq : count = min items.length N
  next_eq : next.val = items.length % N
  cell : ∀ i, items.length ≤ i + N → i < items.length → cells[i % N]? = items[i]?

/-- Two items that are less than a turn apart are in different cells. -/
theorem mod_ne_of_near {i j : Nat} (before : i < j) (near : j < i + N) : i % N ≠ j % N := by
  intro hsame
  have hdvd : N ∣ j - i := (Nat.modEq_iff_dvd' (Nat.le_of_lt before)).mp hsame
  have hle := Nat.le_of_dvd (Nat.sub_pos_of_lt before) hdvd
  omega

/-- Where the oldest item is. -/
def oldest (count : Nat) (next : Fin N) : Nat := if count < N then 0 else next

namespace Holds

variable {cells : Vector α N} {count : Nat} {next : Fin N} {items : List α}

/-- A ring at its start holds the empty history, whatever its cells are. -/
theorem empty (cells : Vector α N) (next : Fin N) (zero : next.val = 0) :
    Holds cells 0 next [] where
  count_eq := (Nat.zero_min N).symm
  next_eq := zero.trans (Nat.zero_mod N).symm
  cell i _ h := absurd h (Nat.not_lt_zero i)

/-- **One more item.** -/
theorem push (h : Holds cells count next items) (item : α) :
    Holds (cells.set next item) (min (count + 1) N) ⟨(next + 1) % N, Nat.mod_lt _ next.pos⟩
      (items ++ [item]) where
  count_eq := by
    rw [h.count_eq, List.length_append, List.length_singleton]
    omega
  next_eq := by
    rw [List.length_append, List.length_singleton]
    change (next.val + 1) % N = _
    rw [h.next_eq, Nat.mod_add_mod]
  cell i hlast hi := by
    have hinside : i % N < N := Nat.mod_lt _ next.pos
    rw [List.length_append, List.length_singleton] at hlast hi
    rcases Nat.eq_or_lt_of_le (Nat.le_of_lt_succ hi) with rfl | hold
    · rw [← h.next_eq, Vector.getElem?_set_self next.isLt, List.getElem?_concat_length]
    · have hne : next.val ≠ i % N := by
        rw [h.next_eq]
        exact (mod_ne_of_near hold (by omega)).symm
      rw [Vector.getElem?_set_ne next.isLt hne, List.getElem?_append_left hold]
      exact h.cell i (by omega) hold

/-- **From the oldest item on**, the held items are in turn. -/
theorem fromOldest (h : Holds cells count next items) {k : Nat} (inside : k < count) :
    cells[(oldest count next + k) % N]? = items[items.length - count + k]? := by
  have hcount := h.count_eq
  have hindex : (oldest count next + k) % N = (items.length - count + k) % N := by
    unfold oldest
    split
    next hpart =>
      have hall : items.length - count = 0 := by omega
      rw [hall]
    next hfull =>
      have hturn : items.length + k = items.length - count + k + N := by omega
      rw [h.next_eq, Nat.mod_add_mod, hturn, Nat.add_mod_right]
  rw [hindex]
  exact h.cell _ (by omega) (by omega)

/-- **The newest item** is one behind the next cell. -/
theorem newest (h : Holds cells count next items) (some_ : 0 < items.length) :
    cells[(next + N - 1) % N]? = items[items.length - 1]? := by
  have hpositive := next.pos
  have hindex : (next.val + N - 1) % N = (items.length - 1) % N := by
    have hturn : items.length + (N - 1) = items.length - 1 + N := by omega
    rw [h.next_eq, Nat.add_sub_assoc hpositive, Nat.mod_add_mod, hturn, Nat.add_mod_right]
  rw [hindex]
  exact h.cell _ (by omega) (by omega)

end Holds

end Driveflow.Library.Ring

import Mathlib

/-!
# A one-slot reorder buffer

Items come in order, and some are selected for a swap. A selected item waits in the slot for the
next item, which goes out first; with the slot taken no item is selected. What has gone out, what
waits, and which swaps were completed is the whole state.

Nothing is lost or duplicated (`pushAll_perm`), and an item that waits is the last that came
(`pushAll_held`). Seen from outside, the buffer swaps each selected item with the next one and goes
on after both (`order_pushAll`), so nothing moves by more than one place.
-/

namespace Driveflow.Library

structure ReorderBuffer (α : Type*) where
  emitted : List α := []
  held : Option α := none
  /-- The completed swaps: who waited, and who went first. -/
  swaps : List (α × α) := []

namespace ReorderBuffer

variable {α : Type*} (selected : α → Bool)

/-- What goes out when `item` comes. -/
def released (buffer : ReorderBuffer α) (item : α) : List α :=
  match buffer.held with
  | some waiting => [item, waiting]
  | none => if selected item then [] else [item]

/-- The swap that `item` completes, if any. -/
def completed (buffer : ReorderBuffer α) (item : α) : List (α × α) :=
  match buffer.held with
  | some waiting => [(waiting, item)]
  | none => []

def push (buffer : ReorderBuffer α) (item : α) : ReorderBuffer α where
  emitted := buffer.emitted ++ buffer.released selected item
  held :=
    match buffer.held with
    | some _ => none
    | none => if selected item then some item else none
  swaps := buffer.swaps ++ buffer.completed item

def pushAll (items : List α) : ReorderBuffer α := items.foldl (push selected) {}

/-- What has gone out, and then what waits. -/
def order (buffer : ReorderBuffer α) : List α := buffer.emitted ++ buffer.held.toList

/-- The last item is pushed onto what the items before it left. -/
theorem pushAll_append_singleton (items : List α) (item : α) :
    pushAll selected (items ++ [item]) = (pushAll selected items).push selected item := by
  rw [pushAll, List.foldl_append]
  rfl

/-- The three things that can happen to an item. -/
theorem push_cases (buffer : ReorderBuffer α) (item : α) :
    (buffer.held = none ∧ selected item = false ∧
      buffer.push selected item =
        { emitted := buffer.emitted ++ [item], held := none, swaps := buffer.swaps }) ∨
    (buffer.held = none ∧ selected item = true ∧
      buffer.push selected item =
        { emitted := buffer.emitted, held := some item, swaps := buffer.swaps }) ∨
    (∃ waiting, buffer.held = some waiting ∧
      buffer.push selected item =
        { emitted := buffer.emitted ++ [item, waiting], held := none,
          swaps := buffer.swaps ++ [(waiting, item)] }) := by
  unfold push released completed
  cases hheld : buffer.held with
  | some waiting => exact .inr (.inr ⟨waiting, rfl, rfl⟩)
  | none =>
    cases hselected : selected item with
    | false =>
      refine .inl ⟨rfl, rfl, ?_⟩
      dsimp only
      rw [if_neg Bool.false_ne_true, if_neg Bool.false_ne_true, List.append_nil]
    | true =>
      refine .inr (.inl ⟨rfl, rfl, ?_⟩)
      dsimp only
      rw [if_pos rfl, if_pos rfl, List.append_nil, List.append_nil]

/-- An item comes, and the order so far is the one before with it somewhere. -/
theorem order_push_perm (buffer : ReorderBuffer α) (item : α) :
    (buffer.push selected item).order.Perm (buffer.order ++ [item]) := by
  rcases push_cases selected buffer item with ⟨hheld, _, h⟩ | ⟨hheld, _, h⟩ | ⟨waiting, hheld, h⟩
  · rw [h, order, order, hheld]
    exact List.Perm.of_eq (by simp only [Option.toList_none, List.append_nil])
  · rw [h, order, order, hheld]
    exact List.Perm.of_eq (by simp only [Option.toList_none, Option.toList_some, List.append_nil])
  · rw [h, order, order, hheld]
    simp only [Option.toList_none, Option.toList_some, List.append_nil, List.append_assoc]
    exact (List.Perm.swap waiting item []).append_left _

/-- **Every item goes out once**, but for the one that waits. -/
theorem pushAll_perm (items : List α) : (pushAll selected items).order.Perm items := by
  induction items using List.reverseRecOn with
  | nil => exact List.Perm.nil
  | append_singleton items item ih =>
    rw [pushAll_append_singleton]
    exact (order_push_perm selected _ item).trans (ih.append_right [item])

/-- **Only the last item can wait.** -/
theorem pushAll_held {items : List α} {waiting : α}
    (held : (pushAll selected items).held = some waiting) :
    ∃ earlier, items = earlier ++ [waiting] ∧ (pushAll selected items).emitted.Perm earlier := by
  induction items using List.reverseRecOn with
  | nil => exact nomatch held
  | append_singleton items item _ =>
    rw [pushAll_append_singleton] at held ⊢
    rcases push_cases selected (pushAll selected items) item with
      ⟨_, _, h⟩ | ⟨hfree, _, h⟩ | ⟨_, _, h⟩
    · rw [h] at held
      exact nomatch held
    · rw [h] at held ⊢
      refine ⟨items, by rw [Option.some.inj held], ?_⟩
      have hperm := pushAll_perm selected items
      rwa [order, hfree, Option.toList_none, List.append_nil] at hperm
    · rw [h] at held
      exact nomatch held

/-- Both halves of a completed swap are out. -/
theorem mem_emitted_of_mem_swaps {items : List α} {waiting item : α}
    (h : (waiting, item) ∈ (pushAll selected items).swaps) :
    waiting ∈ (pushAll selected items).emitted ∧ item ∈ (pushAll selected items).emitted := by
  induction items using List.reverseRecOn with
  | nil => exact absurd h List.not_mem_nil
  | append_singleton items next ih =>
    rw [pushAll_append_singleton] at h ⊢
    have hold (h : (waiting, item) ∈ (pushAll selected items).swaps) :
        waiting ∈ ((pushAll selected items).push selected next).emitted ∧
          item ∈ ((pushAll selected items).push selected next).emitted :=
      ⟨List.mem_append_left _ (ih h).1, List.mem_append_left _ (ih h).2⟩
    rcases push_cases selected (pushAll selected items) next with
      ⟨_, _, hpush⟩ | ⟨_, _, hpush⟩ | ⟨held, _, hpush⟩
    · rw [hpush] at h
      exact hold h
    · rw [hpush] at h
      exact hold h
    · rw [hpush] at h ⊢
      rcases List.mem_append.mp h with h | h
      · exact ⟨List.mem_append_left _ (ih h).1, List.mem_append_left _ (ih h).2⟩
      · obtain ⟨rfl, rfl⟩ := Prod.mk.inj (List.mem_singleton.mp h)
        exact ⟨List.mem_append_right _ (List.mem_cons_of_mem _ List.mem_cons_self),
          List.mem_append_right _ List.mem_cons_self⟩

/-! ## The batch that the buffer realises -/

/-- A selected item is swapped with the next one, if there is one. -/
def swapSelected : List α → List α
  | [] => []
  | [item] => [item]
  | item :: next :: rest =>
    if selected item then next :: item :: swapSelected rest
    else item :: swapSelected (next :: rest)

example : swapSelected (fun k : Nat => k % 2 = 0) [1, 2, 3, 4, 5, 6] = [1, 3, 2, 5, 4, 6] := rfl

/-- With the slot free, what comes is added to what went out as the batch says. -/
theorem order_foldl_push (items emitted : List α) (swaps : List (α × α)) :
    (items.foldl (push selected) { emitted, held := none, swaps }).order =
      emitted ++ swapSelected selected items := by
  induction items using swapSelected.induct selected generalizing emitted swaps with
  | case1 => rfl
  | case2 item =>
    rcases push_cases selected { emitted, held := none, swaps } item with
      ⟨_, _, h⟩ | ⟨_, _, h⟩ | ⟨_, hheld, _⟩
    · rw [List.foldl_cons, List.foldl_nil, h]
      exact List.append_nil _
    · rw [List.foldl_cons, List.foldl_nil, h]
      rfl
    · cases hheld
  | case3 item next rest hselected ih =>
    rcases push_cases selected { emitted, held := none, swaps } item with
      ⟨_, hno, _⟩ | ⟨_, _, h⟩ | ⟨_, hheld, _⟩
    · rw [hselected] at hno
      cases hno
    · have hswap : push selected { emitted, held := some item, swaps } next =
          { emitted := emitted ++ [next, item], held := none,
            swaps := swaps ++ [(item, next)] } := rfl
      rw [List.foldl_cons, h, List.foldl_cons, hswap, ih, swapSelected, if_pos hselected,
        List.append_assoc]
      rfl
    · cases hheld
  | case4 item next rest hselected ih =>
    rcases push_cases selected { emitted, held := none, swaps } item with
      ⟨_, _, h⟩ | ⟨_, hyes, _⟩ | ⟨_, hheld, _⟩
    · rw [List.foldl_cons, h, ih, swapSelected, if_neg hselected, List.append_assoc]
      rfl
    · exact absurd hyes hselected
    · cases hheld

/-- **The buffer swaps each selected item with its successor.** -/
theorem order_pushAll (items : List α) :
    (pushAll selected items).order = swapSelected selected items :=
  order_foldl_push selected items [] []

/-- Only which of the given items are selected decides how they are swapped. -/
theorem swapSelected_congr {selected selected' : α → Bool} {items : List α}
    (h : ∀ item ∈ items, selected item = selected' item) :
    swapSelected selected items = swapSelected selected' items := by
  induction items using swapSelected.induct selected with
  | case1 => rfl
  | case2 => rfl
  | case3 item next rest hselected ih =>
    have hrest := ih fun item hitem => h item (List.mem_cons_of_mem _ (List.mem_cons_of_mem _ hitem))
    have hselected' := (h item List.mem_cons_self).symm.trans hselected
    rw [swapSelected, swapSelected, if_pos hselected, if_pos hselected', hrest]
  | case4 item next rest hselected ih =>
    have hrest := ih fun item hitem => h item (List.mem_cons_of_mem _ hitem)
    rw [h item List.mem_cons_self] at hselected
    rw [swapSelected, swapSelected, h item List.mem_cons_self, if_neg hselected, if_neg hselected,
      hrest]

/-- **Nothing moves by more than one place.** -/
theorem getElem?_swapSelected {items : List α} {i : Nat} {item : α} (h : items[i]? = some item) :
    ∃ j, (swapSelected selected items)[j]? = some item ∧ j ≤ i + 1 ∧ i ≤ j + 1 := by
  induction items using swapSelected.induct selected generalizing i with
  | case1 => cases h
  | case2 => exact ⟨i, h, Nat.le_succ i, Nat.le_succ i⟩
  | case3 first next rest hselected ih =>
    rw [swapSelected, if_pos hselected]
    match i with
    | 0 => exact ⟨1, h, Nat.le_refl 1, Nat.zero_le _⟩
    | 1 => exact ⟨0, h, Nat.zero_le _, Nat.le_refl 1⟩
    | i + 2 =>
      obtain ⟨j, hj, hlow, hhigh⟩ := ih h
      exact ⟨j + 2, hj, Nat.add_le_add_right hlow 2, Nat.add_le_add_right hhigh 2⟩
  | case4 first next rest hselected ih =>
    rw [swapSelected, if_neg hselected]
    match i with
    | 0 => exact ⟨0, h, Nat.zero_le _, Nat.zero_le _⟩
    | i + 1 =>
      obtain ⟨j, hj, hlow, hhigh⟩ := ih h
      exact ⟨j + 1, hj, Nat.add_le_add_right hlow 1, Nat.add_le_add_right hhigh 1⟩

end ReorderBuffer

end Driveflow.Library

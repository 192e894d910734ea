import Mathlib

/-!
# Labelled transition systems

A system is its initial states and its labelled steps. `Reaches trace s` is a run from an initial
state that performed the labels of `trace` and stands in `s`; the trace is the whole history, so an
invariant may speak of both. The rules: an invariant is proved by its steps (`Reaches.invariant`),
a run can be cut at any point of its trace (`Reaches.split`), what a step preserves holds from there
on at every later label (`Path.forall_label`), what a measure allows is used up along a path
(`Path.countP_add_le`), so that what can always go on comes to its end (`Path.exists_final`), a
register that follows a maximum holds it (`Visits.isGreatest`), a run projects to a run of a part
(`Reaches.project`), a system that another one matches step by step has no other runs
(`Reaches.simulate`), and what only some labels change is a fold over these (`Reaches.fold`).

A schedule of actions is performed one by one (`performAll`), which makes a run.
The last sections are about counters (`foldl_counter`) and about slots, each of which holds at most
one item: what changes hands when one slot is replaced, and that what arrives in a row of slots
departs from it or is still there (`System.Reaches.flow`).
-/

namespace Driveflow.Library

structure System (State Label : Type) where
  initial : State → Prop
  step : State → Label → State → Prop

namespace System

variable {State Label : Type} {system : System State Label}

/-- A run from an initial state. -/
inductive Reaches (system : System State Label) : List Label → State → Prop where
  | start {s} : system.initial s → Reaches system [] s
  | next {trace s label t} :
    Reaches system trace s → system.step s label t → Reaches system (trace ++ [label]) t

/-- A run between two states. -/
inductive Path (system : System State Label) : State → List Label → State → Prop where
  | nil (s) : Path system s [] s
  | snoc {s labels t label u} :
    Path system s labels t → system.step t label u → Path system s (labels ++ [label]) u

/-- **The invariant rule**, for invariants over the state and its whole history. -/
theorem Reaches.invariant {trace : List Label} {s : State} (run : system.Reaches trace s)
    (inv : List Label → State → Prop) (start : ∀ s, system.initial s → inv [] s)
    (preserved : ∀ trace s label t, system.Reaches trace s → inv trace s →
      system.step s label t → inv (trace ++ [label]) t) : inv trace s := by
  induction run with
  | start h => exact start _ h
  | next run step ih => exact preserved _ _ _ _ run ih step

/-- A run began somewhere. -/
theorem Reaches.exists_initial {trace : List Label} {s : State} (run : system.Reaches trace s) :
    ∃ s, system.initial s := by
  induction run with
  | start h => exact ⟨_, h⟩
  | next _ _ ih => exact ih

/-- The last step of a run. -/
theorem Reaches.last {trace : List Label} {label : Label} {t : State}
    (run : system.Reaches (trace ++ [label]) t) :
    ∃ s, system.Reaches trace s ∧ system.step s label t := by
  generalize h : trace ++ [label] = labels at run
  cases run with
  | start => exact absurd h (List.append_ne_nil_of_right_ne_nil _ (List.cons_ne_nil _ _))
  | next run step =>
    obtain ⟨rfl, hlabel⟩ := List.append_inj' h rfl
    cases hlabel
    exact ⟨_, run, step⟩

/-- A run can be cut anywhere. -/
theorem Reaches.split {before after : List Label} {t : State}
    (run : system.Reaches (before ++ after) t) :
    ∃ s, system.Reaches before s ∧ system.Path s after t := by
  induction after using List.reverseRecOn generalizing t with
  | nil =>
    rw [List.append_nil] at run
    exact ⟨t, run, .nil t⟩
  | append_singleton after label ih =>
    rw [← List.append_assoc] at run
    obtain ⟨u, hbefore, hstep⟩ := run.last
    obtain ⟨s, hreaches, hpath⟩ := ih hbefore
    exact ⟨s, hreaches, hpath.snoc hstep⟩

/-- A run with the states it stood in, the last one being where it stands. -/
inductive Visits (system : System State Label) : List State → List Label → State → Prop where
  | start {s} : system.initial s → Visits system [s] [] s
  | next {states trace s label t} : Visits system states trace s → system.step s label t →
    Visits system (states ++ [t]) (trace ++ [label]) t

/-- A run whose states are listed is a run. -/
theorem Visits.reaches {states : List State} {trace : List Label} {s : State}
    (run : system.Visits states trace s) : system.Reaches trace s := by
  induction run with
  | start h => exact .start h
  | next _ step ih => exact ih.next step

/-- Every run stood in some states. -/
theorem Reaches.exists_visits {trace : List Label} {s : State} (run : system.Reaches trace s) :
    ∃ states, system.Visits states trace s := by
  induction run with
  | start h => exact ⟨_, .start h⟩
  | next _ step ih =>
    obtain ⟨_, hvisits⟩ := ih
    exact ⟨_, hvisits.next step⟩

/-- The last state of a run is among the states it visits. -/
theorem Visits.mem {states : List State} {trace : List Label} {s : State}
    (run : system.Visits states trace s) : s ∈ states := by
  cases run with
  | start => exact List.mem_cons_self
  | next => exact List.mem_append_right _ List.mem_cons_self

/-- **A register that follows a maximum holds it**: what no state so far exceeded and some state
reached. -/
theorem Visits.isGreatest {Value : Type} [LinearOrder Value] {states : List State}
    {trace : List Label} {s : State} (run : system.Visits states trace s)
    (value register : State → Value) (start : ∀ s, system.initial s → register s = value s)
    (steps : ∀ s label t, system.step s label t → value s ≤ register s →
      register t = max (register s) (value t)) :
    IsGreatest {v | ∃ state ∈ states, value state = v} (register s) := by
  induction run with
  | @start s h =>
    refine ⟨⟨s, List.mem_cons_self, (start s h).symm⟩, ?_⟩
    rintro _ ⟨state, hstate, rfl⟩
    rw [List.mem_singleton.mp hstate, start s h]
  | @next states trace s label t run step ih =>
    obtain ⟨⟨state, hstate, hvalue⟩, hbound⟩ := ih
    rw [steps s label t step (hbound ⟨s, run.mem, rfl⟩)]
    constructor
    · rcases le_total (value t) (register s) with hle | hle
      · rw [max_eq_left hle]
        exact ⟨state, List.mem_append_left _ hstate, hvalue⟩
      · rw [max_eq_right hle]
        exact ⟨t, List.mem_append_right _ List.mem_cons_self, rfl⟩
    · rintro _ ⟨state, hstate, rfl⟩
      rcases List.mem_append.mp hstate with hstate | hstate
      · exact (hbound ⟨state, hstate, rfl⟩).trans (le_max_left _ _)
      · rw [List.mem_singleton.mp hstate]
        exact le_max_right _ _

/-- What every step preserves holds at the end of a path. -/
theorem Path.preserves {s t : State} {labels : List Label} (path : system.Path s labels t)
    (holds : State → Prop) (start : holds s)
    (preserved : ∀ s label t, holds s → system.step s label t → holds t) : holds t := by
  induction path with
  | nil => exact start
  | snoc path step ih => exact preserved _ _ _ ih step

/-- Every label of a path is a step from a state where what is preserved holds. -/
theorem Path.forall_label {s t : State} {labels : List Label} (path : system.Path s labels t)
    (holds : State → Prop) (start : holds s)
    (preserved : ∀ s label t, holds s → system.step s label t → holds t) :
    ∀ label ∈ labels, ∃ u v, holds u ∧ system.step u label v := by
  induction path with
  | nil => exact fun _ h => absurd h List.not_mem_nil
  | snoc path step ih =>
    intro label hmem
    rcases List.mem_append.mp hmem with hmem | hmem
    · exact ih label hmem
    · rw [List.mem_singleton.mp hmem]
      exact ⟨_, _, path.preserves holds start preserved, step⟩

/-- Paths compose where they meet. -/
theorem Path.append {s t u : State} {before after : List Label} (first : system.Path s before t)
    (second : system.Path t after u) : system.Path s (before ++ after) u := by
  induction second with
  | nil =>
    rw [List.append_nil]
    exact first
  | snoc _ step ih =>
    rw [← List.append_assoc]
    exact ih.snoc step

/-- A run goes on along a path. -/
theorem Reaches.append {trace labels : List Label} {s t : State} (run : system.Reaches trace s)
    (path : system.Path s labels t) : system.Reaches (trace ++ labels) t := by
  induction path with
  | nil =>
    rw [List.append_nil]
    exact run
  | snoc _ step ih =>
    rw [← List.append_assoc]
    exact ih.next step

/-- Some run stands in the state. -/
def Reachable (system : System State Label) (s : State) : Prop := ∃ trace, system.Reaches trace s

/-- One step from a reachable state reaches another. -/
theorem Reachable.step {s t : State} {label : Label} (h : system.Reachable s)
    (step : system.step s label t) : system.Reachable t := by
  obtain ⟨trace, run⟩ := h
  exact ⟨trace ++ [label], run.next step⟩

/-- **The measure rule**: the counted labels of a path use up what the measure allows, as long as
every label of the path is an allowed one. -/
theorem Path.countP_add_le {s t : State} {labels : List Label} (path : system.Path s labels t)
    (holds : State → Prop) (start : holds s) (measure : State → Nat) (allowed : Label → Prop)
    (counted : Label → Bool)
    (uses : ∀ s label t, holds s → allowed label → system.step s label t →
      holds t ∧ measure t + (if counted label then 1 else 0) ≤ measure s)
    (within : ∀ label ∈ labels, allowed label) :
    holds t ∧ labels.countP counted + measure t ≤ measure s := by
  induction path with
  | nil =>
    refine ⟨start, ?_⟩
    rw [List.countP_nil, Nat.zero_add]
  | @snoc labels t label u path step ih =>
    obtain ⟨hholds, hsum⟩ := ih fun label h => within label (List.mem_append_left _ h)
    have hallowed := within label (List.mem_append_right _ List.mem_cons_self)
    obtain ⟨hnext, huses⟩ := uses t label u hholds hallowed step
    refine ⟨hnext, ?_⟩
    rw [List.countP_append, List.countP_singleton]
    omega

/-- **What can always go on, and not for ever, comes to its end.** -/
theorem Path.exists_final {s : State} (holds : State → Prop) (start : holds s)
    (measure : State → Nat) (allowed : Label → Prop) (final : State → Prop)
    (decreases : ∀ s label t, holds s → allowed label → system.step s label t →
      holds t ∧ measure t < measure s)
    (progress : ∀ s, holds s → ¬ final s → ∃ label t, allowed label ∧ system.step s label t) :
    ∃ labels t, system.Path s labels t ∧ final t ∧ ∀ label ∈ labels, allowed label := by
  induction hmeasure : measure s using Nat.strongRecOn generalizing s with
  | ind bound ih =>
    by_cases hfinal : final s
    · exact ⟨[], s, .nil s, hfinal, fun _ h => absurd h List.not_mem_nil⟩
    · obtain ⟨label, t, hallowed, hstep⟩ := progress s start hfinal
      obtain ⟨hholds, hless⟩ := decreases s label t start hallowed hstep
      obtain ⟨labels, u, hpath, hend, hlabels⟩ := ih _ (hmeasure ▸ hless) hholds rfl
      have hfirst : system.Path s [label] t := (Path.nil s).snoc hstep
      refine ⟨[label] ++ labels, u, hfirst.append hpath, hend, ?_⟩
      intro other hmem
      rcases List.mem_append.mp hmem with hmem | hmem
      · rw [List.mem_singleton.mp hmem]
        exact hallowed
      · exact hlabels other hmem

/-- A run of the whole is a run of a part, if each step of the whole is a step of the part or
leaves it alone. -/
theorem Reaches.project {State' Label' : Type} {part : System State' Label'}
    {trace : List Label} {s : State} (run : system.Reaches trace s) (view : State → State')
    (seen : Label → Option Label') (start : ∀ s, system.initial s → part.initial (view s))
    (steps : ∀ s label t, system.step s label t →
      match seen label with
      | none => view t = view s
      | some label' => part.step (view s) label' (view t)) :
    part.Reaches (trace.filterMap seen) (view s) := by
  induction run with
  | start h => exact .start (start _ h)
  | @next trace s label t run step ih =>
    have hstep := steps s label t step
    rw [List.filterMap_append, List.filterMap_cons, List.filterMap_nil]
    cases hseen : seen label with
    | none =>
      rw [hseen] at hstep
      dsimp only at hstep ⊢
      rw [List.append_nil, hstep]
      exact ih
    | some label' =>
      rw [hseen] at hstep
      exact ih.next hstep

/-- **The simulation rule**: where each step of a system is matched by a path of another one, each run
is matched by a run, and what relates the two ends of the step relates those of the runs. -/
theorem Reaches.simulate {State' Label' : Type} {other : System State' Label'} {trace : List Label}
    {s : State} (run : system.Reaches trace s)
    (related : List Label → State → List Label' → State' → Prop)
    (start : ∀ s, system.initial s → ∃ s', other.initial s' ∧ related [] s [] s')
    (steps : ∀ trace s label t trace' s', other.Reaches trace' s' → related trace s trace' s' →
      system.step s label t →
      ∃ labels t', other.Path s' labels t' ∧ related (trace ++ [label]) t (trace' ++ labels) t') :
    ∃ trace' s', other.Reaches trace' s' ∧ related trace s trace' s' := by
  induction run with
  | start h =>
    obtain ⟨s', hinitial, hrelated⟩ := start _ h
    exact ⟨[], s', .start hinitial, hrelated⟩
  | next run step ih =>
    obtain ⟨trace', s', hrun, hrelated⟩ := ih
    obtain ⟨labels, t', hpath, hnext⟩ := steps _ _ _ _ _ _ hrun hrelated step
    exact ⟨trace' ++ labels, t', hrun.append hpath, hnext⟩

/-- What every step's label is, every label of a run is. -/
theorem Reaches.forall_mem {trace : List Label} {s : State} (run : system.Reaches trace s)
    (holds : Label → Prop) (steps : ∀ s label t, system.step s label t → holds label) :
    ∀ label ∈ trace, holds label := by
  induction run with
  | start => exact fun _ h => absurd h List.not_mem_nil
  | next run step ih =>
    intro label hmem
    rcases List.mem_append.mp hmem with hmem | hmem
    · exact ih label hmem
    · rw [List.mem_singleton.mp hmem]
      exact steps _ _ _ step

/-- What only the seen labels change, each in its own way, is a fold over them. -/
theorem Reaches.fold {Value Seen : Type} {trace : List Label} {s : State}
    (run : system.Reaches trace s) (view : State → Value) (seen : Label → Option Seen)
    (record : Value → Seen → Value) (value : Value)
    (start : ∀ s, system.initial s → view s = value)
    (steps : ∀ s label t, system.step s label t →
      view t = (seen label).elim (view s) (record (view s))) :
    view s = (trace.filterMap seen).foldl record value := by
  induction run with
  | start h => exact start _ h
  | @next trace s label t run step ih =>
    rw [steps s label t step, List.filterMap_append, List.foldl_append, ← ih,
      List.filterMap_cons, List.filterMap_nil]
    cases seen label <;> rfl

end System

/-! ## Schedules -/

section Schedules

variable {State Label Action : Type}

/-- A schedule: the actions in order, as long as each is enabled. -/
def performAll (perform : State → Action → Option (State × Label)) (state : State) :
    List Action → Option (State × List Label)
  | [] => some (state, [])
  | action :: actions => do
    let (next, label) ← perform state action
    let (last, labels) ← performAll perform next actions
    some (last, label :: labels)

/-- A schedule is a run. -/
theorem System.Reaches.performAll {system : System State Label} {trace labels : List Label}
    {state last : State} (run : system.Reaches trace state)
    {perform : State → Action → Option (State × Label)}
    (steps : ∀ state action label next, perform state action = some (next, label) →
      system.step state label next)
    (actions : List Action)
    (h : Library.performAll perform state actions = some (last, labels)) :
    system.Reaches (trace ++ labels) last := by
  induction actions generalizing trace state labels with
  | nil =>
    cases h
    rw [List.append_nil]
    exact run
  | cons action actions ih =>
    obtain ⟨⟨next, label⟩, hperform, hrest⟩ := Option.bind_eq_some_iff.mp h
    obtain ⟨⟨final, tail⟩, htail, hend⟩ := Option.bind_eq_some_iff.mp hrest
    cases hend
    have hnext := ih (run.next (steps _ _ _ _ hperform)) htail
    rw [List.append_assoc] at hnext
    exact hnext

end Schedules

/-! ## Counters -/

/-- A counter that each item of a kind bumps counts the items of that kind. -/
theorem foldl_counter {Value Item : Type} {w : Nat} (record : Value → Item → Value)
    (counter : Value → BitVec w) (kind : Item → Bool)
    (bumped : ∀ value item, counter (record value item) =
      counter value + BitVec.ofNat w (if kind item then 1 else 0))
    (value : Value) (items : List Item) :
    counter (items.foldl record value) =
      counter value + BitVec.ofNat w (items.countP kind) := by
  induction items generalizing value with
  | nil => exact (BitVec.add_zero _).symm
  | cons item items ih =>
    rw [List.foldl_cons, ih, bumped, List.countP_cons, BitVec.add_assoc, ← BitVec.ofNat_add,
      Nat.add_comm]

/-! ## Slots -/

section Slots

variable {Slot Other Item : Type}

/-- Replacing one slot swaps the item it held for the item it holds. -/
theorem filterMap_set_perm {slots : List Slot} {index : Nat} {old : Slot}
    (h : slots[index]? = some old) (held : Slot → Option Item) (new : Slot) :
    ((held old).toList ++ (slots.set index new).filterMap held).Perm
      ((held new).toList ++ slots.filterMap held) := by
  obtain ⟨hlt, rfl⟩ := List.getElem?_eq_some_iff.mp h
  have hsplit : slots = slots.take index ++ slots[index] :: slots.drop (index + 1) := by
    rw [← List.drop_eq_getElem_cons hlt, List.take_append_drop]
  have hfilter (middle : Slot) (left right : List Slot) :
      (left ++ middle :: right).filterMap held =
        left.filterMap held ++ ((held middle).toList ++ right.filterMap held) := by
    rw [List.filterMap_append, List.filterMap_cons]
    cases held middle <;> rfl
  have hold := hfilter slots[index] (slots.take index) (slots.drop (index + 1))
  rw [← hsplit] at hold
  rw [List.set_eq_take_append_cons_drop, if_pos hlt, hfilter, hold]
  -- both sides hold the old and the new item between the two halves
  refine (List.perm_append_comm_assoc _ _ _).trans ?_
  refine (List.Perm.append_left _ (List.perm_append_comm_assoc _ _ _)).trans ?_
  exact List.perm_append_comm_assoc _ _ _

/-- Replacing one slot, counted by kind. -/
theorem countP_set_add {slots : List Slot} {index : Nat} {old : Slot}
    (h : slots[index]? = some old) (kind : Slot → Bool) (new : Slot) :
    (slots.set index new).countP kind + (if kind old then 1 else 0) =
      slots.countP kind + if kind new then 1 else 0 := by
  obtain ⟨hlt, rfl⟩ := List.getElem?_eq_some_iff.mp h
  have hcount : (if kind slots[index] then 1 else 0) ≤ slots.countP kind := by
    split
    next hkind => exact List.countP_pos_iff.mpr ⟨_, List.getElem_mem hlt, hkind⟩
    · exact Nat.zero_le _
  rw [List.countP_set hlt]
  omega

/-- Replacing one slot, weighed. -/
theorem sum_map_set_add {slots : List Slot} {index : Nat} {old : Slot}
    (h : slots[index]? = some old) (weight : Slot → Nat) (new : Slot) :
    ((slots.set index new).map weight).sum + weight old =
      (slots.map weight).sum + weight new := by
  induction slots generalizing index with
  | nil => cases h
  | cons slot slots ih =>
    cases index with
    | zero =>
      cases h
      simp only [List.set_cons_zero, List.map_cons, List.sum_cons]
      omega
    | succ index =>
      have hrest := ih (List.getElem?_cons_succ ▸ h)
      simp only [List.set_cons_succ, List.map_cons, List.sum_cons]
      omega

/-- Two rows of slots, replaced at one index. -/
theorem zip_set (slots : List Slot) (others : List Other) (index : Nat) (slot : Slot)
    (other : Other) :
    (slots.set index slot).zip (others.set index other) =
      (slots.zip others).set index (slot, other) := by
  induction slots generalizing others index with
  | nil => cases others <;> rfl
  | cons first slots ih =>
    cases others with
    | nil => cases index <;> rfl
    | cons second others =>
      cases index with
      | zero => rfl
      | succ index => exact congrArg ((first, second) :: ·) (ih others index)

/-- **What arrives in a row of slots departs from it or is still there**, when each step leaves the
row alone or replaces one slot by another. -/
theorem System.Reaches.flow {State Label : Type} {system : System State Label}
    {trace : List Label} {s : State} (run : system.Reaches trace s) (slots : State → List Slot)
    (held : Slot → Option Item) (departure arrival : Label → Option Item)
    (start : ∀ s, system.initial s → (slots s).filterMap held = [])
    (steps : ∀ trace s label t, system.Reaches trace s → system.step s label t →
      (slots t = slots s ∧ departure label = none ∧ arrival label = none) ∨
        ∃ index old new, (slots s)[index]? = some old ∧ slots t = (slots s).set index new ∧
          departure label = held old ∧ arrival label = held new) :
    (trace.filterMap arrival : Multiset Item) =
      trace.filterMap departure + (slots s).filterMap held := by
  induction run with
  | start h =>
    rw [start _ h]
    rfl
  | @next trace s label t run step ih =>
    have hsingle (f : Label → Option Item) :
        ((trace ++ [label]).filterMap f : Multiset Item) =
          trace.filterMap f + (f label).toList := by
      rw [List.filterMap_append, ← Multiset.coe_add, List.filterMap_cons, List.filterMap_nil]
      cases f label <;> rfl
    rw [hsingle, hsingle, ih]
    rcases steps trace s label t run step with ⟨hsame, hdeparture, harrival⟩ |
      ⟨index, old, new, hold, hset, hdeparture, harrival⟩
    · rw [hsame, hdeparture, harrival]
      exact (add_zero _).trans (congrArg (· + _) (add_zero _).symm)
    · have hmoves := Multiset.coe_eq_coe.mpr (filterMap_set_perm hold held new)
      rw [← Multiset.coe_add, ← Multiset.coe_add] at hmoves
      rw [hset, hdeparture, harrival, add_assoc, add_assoc, hmoves]
      exact congrArg _ (add_comm _ _)

end Slots

end Driveflow.Library

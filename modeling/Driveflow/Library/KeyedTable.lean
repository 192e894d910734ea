import Mathlib

/-!
# Tables of distinct keys, and bounded machines over them

A table lists its entries in the order in which their keys arrived. A **bounded machine** feeds a
table from a stream of events: an event for a known key steps that key's value, an event for a new
key may open an entry while there is room, and everything else is dropped.

**The law** (`BoundedMachine.keys_run`, `BoundedMachine.lookup_run`): the table holds the first
`capacity` keys to arrive, in order, and the value of each is the history of that key's own events.
No key sees another key's events, and a key that was turned away stays away.
-/

namespace Driveflow.Library

/-! ## Order of arrival -/

section Arrivals

variable {Key : Type} [DecidableEq Key]

/-- The next key is a new one, or one that came before. -/
theorem eraseDups_append_singleton (keys : List Key) (key : Key) :
    (keys ++ [key]).eraseDups =
      if key ∈ keys then keys.eraseDups else keys.eraseDups ++ [key] := by
  rw [List.eraseDups_append]
  split
  next h => simp [List.removeAll, h]
  next h => simp [List.removeAll, h, List.eraseDups_cons]

/-- What `eraseDups` leaves is distinct. -/
theorem nodup_eraseDups (keys : List Key) : keys.eraseDups.Nodup := by
  induction keys using List.reverseRecOn with
  | nil => exact List.nodup_nil
  | append_singleton keys last ih =>
    rw [eraseDups_append_singleton]
    split
    next h => exact ih
    next h =>
      refine List.Nodup.append ih (List.nodup_singleton last) (List.disjoint_singleton.mpr ?_)
      exact fun hmem => h (List.mem_eraseDups.mp hmem)

/-- The first `capacity` keys to arrive. -/
def admitted (capacity : Nat) (keys : List Key) : List Key := keys.eraseDups.take capacity

/-- No key is admitted twice. -/
theorem nodup_admitted (capacity : Nat) (keys : List Key) : (admitted capacity keys).Nodup :=
  (nodup_eraseDups keys).sublist (List.take_sublist _ _)

/-- Only keys that arrived are admitted. -/
theorem mem_of_mem_admitted {capacity : Nat} {keys : List Key} {key : Key}
    (h : key ∈ admitted capacity keys) : key ∈ keys :=
  List.mem_eraseDups.mp (List.mem_of_mem_take h)

/-- While there is room, nothing was turned away. -/
theorem mem_admitted_of_room {capacity : Nat} {keys : List Key} {key : Key}
    (room : (admitted capacity keys).length < capacity) :
    key ∈ admitted capacity keys ↔ key ∈ keys := by
  have hsmall : keys.eraseDups.length ≤ capacity := by
    rw [admitted, List.length_take] at room
    omega
  rw [admitted, List.take_of_length_le hsmall, List.mem_eraseDups]

/-- The next key is admitted if it is new and there is room, and changes nothing otherwise. -/
theorem admitted_append_singleton (capacity : Nat) (keys : List Key) (key : Key) :
    admitted capacity (keys ++ [key]) =
      if key ∈ admitted capacity keys then admitted capacity keys
      else if (admitted capacity keys).length < capacity then admitted capacity keys ++ [key]
      else admitted capacity keys := by
  by_cases hmem : key ∈ admitted capacity keys
  · rw [if_pos hmem, admitted, eraseDups_append_singleton, if_pos (mem_of_mem_admitted hmem)]
    rfl
  · rw [if_neg hmem]
    by_cases hroom : keys.eraseDups.length < capacity
    · have hall : admitted capacity keys = keys.eraseDups :=
        List.take_of_length_le (Nat.le_of_lt hroom)
      rw [hall, List.mem_eraseDups] at hmem
      rw [hall, if_pos hroom, admitted, eraseDups_append_singleton, if_neg hmem,
        List.take_of_length_le]
      rw [List.length_append]
      exact hroom
    · have hfull : ¬ (admitted capacity keys).length < capacity := by
        rw [admitted, List.length_take]
        omega
      rw [if_neg hfull, admitted, eraseDups_append_singleton]
      split
      · rfl
      · exact List.take_append_of_le_length (Nat.le_of_not_lt hroom)

/-- What was admitted stays admitted. -/
theorem admitted_isPrefix (capacity : Nat) (keys more : List Key) :
    admitted capacity keys <+: admitted capacity (keys ++ more) := by
  induction more using List.reverseRecOn with
  | nil => rw [List.append_nil]
  | append_singleton more last ih =>
    rw [← List.append_assoc, admitted_append_singleton]
    split
    · exact ih
    · split
      · exact ih.trans (List.prefix_append _ _)
      · exact ih

/-- A key that comes again was admitted at its first coming, or never. -/
theorem mem_admitted_of_append {capacity : Nat} {keys more : List Key} {key : Key}
    (came : key ∈ keys) (h : key ∈ admitted capacity (keys ++ more)) :
    key ∈ admitted capacity keys := by
  induction more using List.reverseRecOn with
  | nil => rwa [List.append_nil] at h
  | append_singleton more last ih =>
    rw [← List.append_assoc, admitted_append_singleton] at h
    split at h
    next => exact ih h
    next hlast =>
      split at h
      next hroom =>
        rcases List.mem_append.mp h with h | h
        · exact ih h
        · rw [← List.mem_singleton.mp h, mem_admitted_of_room hroom] at hlast
          exact absurd (List.mem_append_left _ came) hlast
      next => exact ih h

/-- With few distinct keys, all are admitted. -/
theorem admitted_of_few {capacity : Nat} {keys : List Key}
    (few : keys.eraseDups.length ≤ capacity) : admitted capacity keys = keys.eraseDups :=
  List.take_of_length_le few

/-- A key that comes alone arrives once. -/
theorem eraseDups_of_forall_eq {keys : List Key} {key : Key} (alone : ∀ other ∈ keys, other = key)
    (came : key ∈ keys) : keys.eraseDups = [key] := by
  by_contra h
  rcases ((nodup_eraseDups keys).ne_singleton_iff key).mp h with hnil | ⟨other, hmem, hne⟩
  · exact List.not_mem_nil (hnil ▸ List.mem_eraseDups.mpr came)
  · exact hne (alone other (List.mem_eraseDups.mp hmem))

end Arrivals

/-! ## Tables -/

/-- Entries of distinct keys, in order of arrival. -/
structure KeyedTable (Key Value : Type) where
  entries : List (Key × Value)
  distinct : (entries.map Prod.fst).Nodup

namespace KeyedTable

variable {Key Value Other : Type}

/-- A table is its list of entries; the proof that the keys are distinct carries no data. -/
@[ext]
theorem ext {table table' : KeyedTable Key Value} (h : table.entries = table'.entries) :
    table = table' := by
  cases table
  cases table'
  cases h
  rfl

def empty : KeyedTable Key Value := ⟨[], List.nodup_nil⟩

def keys (table : KeyedTable Key Value) : List Key := table.entries.map Prod.fst

def size (table : KeyedTable Key Value) : Nat := table.entries.length

/-- There is one key for each entry. -/
theorem length_keys (table : KeyedTable Key Value) : table.keys.length = table.size :=
  List.length_map _

/-- Changes every value by a function. -/
def map (table : KeyedTable Key Value) (g : Value → Other) : KeyedTable Key Other :=
  { entries := table.entries.map fun entry => (entry.1, g entry.2)
    distinct := by
      rw [List.map_map]
      exact table.distinct }

@[simp] theorem keys_empty : (empty : KeyedTable Key Value).keys = [] := rfl

@[simp] theorem keys_map (table : KeyedTable Key Value) (g : Value → Other) :
    (table.map g).keys = table.keys := by
  rw [map, keys, List.map_map]
  rfl

variable [DecidableEq Key]

/-- The value of a key, by a search from the front. -/
def lookup (table : KeyedTable Key Value) (key : Key) : Option Value :=
  (table.entries.find? fun entry => entry.1 = key).map Prod.snd

private theorem keys_modifyEntries (entries : List (Key × Value)) (key : Key)
    (f : Value → Value) :
    (entries.map fun entry => if entry.1 = key then (entry.1, f entry.2) else entry).map Prod.fst =
      entries.map Prod.fst := by
  rw [List.map_map]
  refine List.map_congr_left fun entry _ => ?_
  simp only [Function.comp_apply]
  split <;> rfl

/-- Changes the value of a key in place. -/
def modify (table : KeyedTable Key Value) (key : Key) (f : Value → Value) :
    KeyedTable Key Value :=
  { entries := table.entries.map fun entry =>
      if entry.1 = key then (entry.1, f entry.2) else entry
    distinct := by
      rw [keys_modifyEntries]
      exact table.distinct }

/-- Appends an entry for a key that has none. -/
def pushBack (table : KeyedTable Key Value) (key : Key) (value : Value) :
    KeyedTable Key Value :=
  if fresh : key ∈ table.keys then table
  else
    { entries := table.entries ++ [(key, value)]
      distinct := by
        rw [List.map_append]
        exact List.Nodup.append table.distinct (List.nodup_singleton key)
          (List.disjoint_singleton.mpr fresh) }

@[simp] theorem lookup_empty (key : Key) : (empty : KeyedTable Key Value).lookup key = none := rfl

/-- A lookup fails exactly for the keys the table does not hold. -/
theorem lookup_eq_none_iff {table : KeyedTable Key Value} {key : Key} :
    table.lookup key = none ↔ key ∉ table.keys := by
  simp only [lookup, keys, Option.map_eq_none_iff, List.find?_eq_none, decide_eq_true_eq,
    List.mem_map, not_exists, not_and]

/-- A lookup succeeds exactly for the keys the table holds. -/
theorem isSome_lookup_iff {table : KeyedTable Key Value} {key : Key} :
    (table.lookup key).isSome = true ↔ key ∈ table.keys := by
  rw [← not_iff_not, Bool.not_eq_true, Option.isSome_eq_false_iff, Option.isNone_iff_eq_none,
    lookup_eq_none_iff]

@[simp] theorem keys_modify (table : KeyedTable Key Value) (key : Key) (f : Value → Value) :
    (table.modify key f).keys = table.keys :=
  keys_modifyEntries _ _ _

/-- A new entry puts its key behind the keys there are. -/
theorem keys_pushBack {table : KeyedTable Key Value} {key : Key} (fresh : key ∉ table.keys)
    (value : Value) : (table.pushBack key value).keys = table.keys ++ [key] := by
  rw [pushBack, dif_neg fresh, keys, List.map_append]
  rfl

/-- A change of one key's value is seen by that key alone. -/
theorem lookup_modify (table : KeyedTable Key Value) (key other : Key) (f : Value → Value) :
    (table.modify key f).lookup other =
      if other = key then (table.lookup other).map f else table.lookup other := by
  simp only [lookup, modify, List.find?_map]
  have hsame : ((fun entry : Key × Value => decide (entry.1 = other)) ∘ fun entry =>
      if entry.1 = key then (entry.1, f entry.2) else entry) =
      fun entry => decide (entry.1 = other) := by
    funext entry
    simp only [Function.comp_apply]
    split <;> rfl
  rw [hsame]
  cases hfind : table.entries.find? fun entry => decide (entry.1 = other) with
  | none => simp only [Option.map_none, ite_self]
  | some entry =>
    have hkey : entry.1 = other := by simpa only [decide_eq_true_eq] using List.find?_some hfind
    simp only [Option.map_some, hkey]
    split <;> rfl

/-- A new entry is seen by its key alone. -/
theorem lookup_pushBack {table : KeyedTable Key Value} {key : Key} (fresh : key ∉ table.keys)
    (value : Value) (other : Key) :
    (table.pushBack key value).lookup other =
      if other = key then some value else table.lookup other := by
  have hnone := lookup_eq_none_iff.mpr fresh
  rw [lookup, Option.map_eq_none_iff] at hnone
  simp only [lookup, pushBack, dif_neg fresh, List.find?_append, List.find?_singleton]
  by_cases h : other = key
  · subst h
    simp only [hnone, decide_true, ↓reduceIte, Option.none_or, Option.map_some]
  · have hne : ¬ key = other := fun e => h e.symm
    simp only [hne, decide_false, Bool.false_eq_true, ↓reduceIte, Option.or_none, h]

/-- Distinct keys: an entry is what its key looks up. -/
theorem lookup_of_mem {table : KeyedTable Key Value} {key : Key} {value : Value}
    (h : (key, value) ∈ table.entries) : table.lookup key = some value := by
  cases hfind : table.entries.find? fun entry => entry.1 = key with
  | none => exact absurd (decide_eq_true rfl) (List.find?_eq_none.mp hfind _ h)
  | some entry =>
    have hkey : entry.1 = key := by simpa only [decide_eq_true_eq] using List.find?_some hfind
    have hsame : entry = (key, value) :=
      List.inj_on_of_nodup_map table.distinct (List.mem_of_find?_eq_some hfind) h hkey
    rw [lookup, hfind, hsame, Option.map_some]

/-- A change matters only at the value the key has. -/
theorem modify_congr {table : KeyedTable Key Value} {key : Key} {value : Value}
    {f g : Value → Value} (h : table.lookup key = some value) (heq : f value = g value) :
    table.modify key f = table.modify key g := by
  apply KeyedTable.ext
  refine List.map_congr_left fun entry hmem => ?_
  split
  next hkey =>
    have hvalue : table.lookup entry.1 = some entry.2 := lookup_of_mem hmem
    rw [hkey, h] at hvalue
    rw [← Option.some.inj hvalue, heq]
  next => rfl

/-- What a lookup returns stands in the table under the key asked for. -/
theorem mem_of_lookup {table : KeyedTable Key Value} {key : Key} {value : Value}
    (h : table.lookup key = some value) : (key, value) ∈ table.entries := by
  obtain ⟨entry, hfind, hvalue⟩ := Option.map_eq_some_iff.mp h
  have hkey : entry.1 = key := by simpa only [decide_eq_true_eq] using List.find?_some hfind
  have hsame : entry = (key, value) := by rw [← hkey, ← hvalue]
  exact hsame ▸ List.mem_of_find?_eq_some hfind

/-- A new entry may be changed before or after it is appended. -/
theorem modify_pushBack {table : KeyedTable Key Value} {key : Key} (fresh : key ∉ table.keys)
    (value : Value) (f : Value → Value) :
    (table.pushBack key value).modify key f = table.pushBack key (f value) := by
  apply KeyedTable.ext
  simp only [modify, pushBack, dif_neg fresh, List.map_append, List.map_cons, List.map_nil,
    ↓reduceIte]
  congr 1
  refine (List.map_congr_left fun entry hmem => ?_).trans (List.map_id _)
  refine if_neg fun hkey => fresh ?_
  rw [← hkey]
  exact List.mem_map_of_mem hmem

/-- Mapping the values maps what a lookup returns. -/
theorem lookup_map (table : KeyedTable Key Value) (g : Value → Other) (key : Key) :
    (table.map g).lookup key = (table.lookup key).map g := by
  simp only [lookup, map, List.find?_map, Option.map_map]
  rfl

/-- A change of a value is seen through a function by what it does at that value. -/
theorem map_modify {table : KeyedTable Key Value} {key : Key} {value : Value}
    {f : Value → Value} {f' : Other → Other} {g : Value → Other}
    (h : table.lookup key = some value) (heq : g (f value) = f' (g value)) :
    (table.modify key f).map g = (table.map g).modify key f' := by
  apply KeyedTable.ext
  simp only [map, modify, List.map_map]
  refine List.map_congr_left fun entry hmem => ?_
  simp only [Function.comp_apply]
  split
  next hkey =>
    have hvalue : table.lookup entry.1 = some entry.2 := lookup_of_mem hmem
    rw [hkey, h] at hvalue
    rw [← Option.some.inj hvalue, heq]
  next => rfl

/-- A change that a function does not see. -/
theorem map_modify_unseen (table : KeyedTable Key Value) (key : Key) {f : Value → Value}
    {g : Value → Other} (h : ∀ value, g (f value) = g value) :
    (table.modify key f).map g = table.map g := by
  apply KeyedTable.ext
  simp only [map, modify, List.map_map]
  refine List.map_congr_left fun entry _ => ?_
  simp only [Function.comp_apply]
  split
  next => rw [h]
  next => rfl

/-- Mapping the values of a table with a new entry maps the new value as well. -/
theorem map_pushBack (table : KeyedTable Key Value) (key : Key) (value : Value)
    (g : Value → Other) :
    (table.pushBack key value).map g = (table.map g).pushBack key (g value) := by
  apply KeyedTable.ext
  by_cases hkey : key ∈ table.keys
  · have hkey' : key ∈ (table.map g).keys := (keys_map table g).symm ▸ hkey
    rw [pushBack, pushBack, dif_pos hkey, dif_pos hkey']
  · have hkey' : key ∉ (table.map g).keys := (keys_map table g).symm ▸ hkey
    rw [pushBack, pushBack, dif_neg hkey, dif_neg hkey']
    exact List.map_append

omit [DecidableEq Key] in
/-- Mapping the values keeps the number of entries. -/
theorem size_map (table : KeyedTable Key Value) (g : Value → Other) :
    (table.map g).size = table.size := List.length_map _

/-! ### Totals -/

/-- The sum of a measure over the values. -/
def total (table : KeyedTable Key Value) (measure : Value → Nat) : Nat :=
  (table.entries.map fun entry => measure entry.2).sum

/-- A new entry adds its own measure to the total. -/
theorem total_pushBack {table : KeyedTable Key Value} {key : Key} (fresh : key ∉ table.keys)
    (value : Value) (measure : Value → Nat) :
    (table.pushBack key value).total measure = table.total measure + measure value := by
  rw [total, pushBack, dif_neg fresh, List.map_append, List.sum_append, List.map_singleton,
    List.sum_singleton]
  rfl

/-- An entry parts a table in two halves that do not know its key. -/
private theorem split_of_lookup {table : KeyedTable Key Value} {key : Key} {value : Value}
    (h : table.lookup key = some value) : ∃ before after,
    table.entries = before ++ (key, value) :: after ∧
      (∀ entry ∈ before, entry.1 ≠ key) ∧ ∀ entry ∈ after, entry.1 ≠ key := by
  obtain ⟨before, after, hentries⟩ := List.append_of_mem (mem_of_lookup h)
  have hdistinct := table.distinct
  rw [hentries, List.map_append, List.map_cons, List.nodup_append] at hdistinct
  obtain ⟨_, hafter, hdisjoint⟩ := hdistinct
  refine ⟨before, after, hentries, fun entry hmem hkey => ?_, fun entry hmem hkey => ?_⟩
  · exact hdisjoint _ (List.mem_map_of_mem hmem) _ List.mem_cons_self hkey
  · exact (List.nodup_cons.mp hafter).1 (List.mem_map.mpr ⟨entry, hmem, hkey⟩)

/-- A change of one value changes the total by what it does to that value. -/
theorem total_modify {table : KeyedTable Key Value} {key : Key} {value : Value}
    (h : table.lookup key = some value) (f : Value → Value) (measure : Value → Nat) :
    (table.modify key f).total measure + measure value =
      table.total measure + measure (f value) := by
  obtain ⟨before, after, hentries, hbefore, hafter⟩ := split_of_lookup h
  have hother {entries : List (Key × Value)} (hne : ∀ entry ∈ entries, entry.1 ≠ key) :
      (entries.map fun entry => if entry.1 = key then (entry.1, f entry.2) else entry) =
        entries :=
    (List.map_congr_left fun entry hmem => if_neg (hne entry hmem)).trans (List.map_id _)
  unfold total modify
  dsimp only
  rw [hentries, List.map_append, List.map_cons, hother hbefore, hother hafter, if_pos rfl]
  simp only [List.map_append, List.map_cons, List.sum_append, List.sum_cons]
  omega

/-- No stored value measures more than the whole table. -/
theorem le_total {table : KeyedTable Key Value} {key : Key} {value : Value}
    (h : table.lookup key = some value) (measure : Value → Nat) :
    measure value ≤ table.total measure := by
  obtain ⟨before, after, hentries, _, _⟩ := split_of_lookup h
  rw [total, hentries, List.map_append, List.map_cons, List.sum_append, List.sum_cons]
  exact (Nat.le_add_right _ _).trans (Nat.le_add_left _ _)

end KeyedTable

/-! ## Bounded machines -/

/-- How events drive a bounded table. -/
structure BoundedMachine (Event Key Value : Type) where
  capacity : Nat
  key : Event → Key
  /-- The value an event opens an entry with, if it opens one. -/
  create : Event → Option Value
  step : Value → Event → Value

namespace BoundedMachine

variable {Event Key Value : Type} [DecidableEq Key] (machine : BoundedMachine Event Key Value)

/-- One event. -/
def feed (table : KeyedTable Key Value) (event : Event) : KeyedTable Key Value :=
  match table.lookup (machine.key event) with
  | some _ => table.modify (machine.key event) fun value => machine.step value event
  | none =>
    match machine.create event with
    | none => table
    | some value =>
      if table.size < machine.capacity then table.pushBack (machine.key event) value else table

section Feed

variable {table : KeyedTable Key Value} {event : Event}

/-- An event of a stored key updates the value stored under it and nothing else. -/
theorem feed_known {value : Value} (h : table.lookup (machine.key event) = some value) :
    machine.feed table event =
      table.modify (machine.key event) fun value => machine.step value event := by
  simp only [feed, h]

/-- An event of an unknown key that opens no value leaves the table as it was. -/
theorem feed_ignored (h : table.lookup (machine.key event) = none)
    (silent : machine.create event = none) : machine.feed table event = table := by
  simp only [feed, h, silent]

/-- An event that opens a value for an unknown key is given a new entry while there is room. -/
theorem feed_new {value : Value} (h : table.lookup (machine.key event) = none)
    (opens : machine.create event = some value) (room : table.size < machine.capacity) :
    machine.feed table event = table.pushBack (machine.key event) value := by
  simp only [feed, h, opens, if_pos room]

/-- A full table ignores the events of unknown keys. -/
theorem feed_full (h : table.lookup (machine.key event) = none)
    (full : ¬ table.size < machine.capacity) : machine.feed table event = table := by
  simp only [feed, h, if_neg full]
  cases machine.create event <;> rfl

end Feed

def run (events : List Event) : KeyedTable Key Value :=
  events.foldl machine.feed KeyedTable.empty

/-- The keys of the events that would open an entry. -/
def opened (events : List Event) : List Key :=
  events.filterMap fun event => (machine.create event).map fun _ => machine.key event

/-- One event of one key: it opens the history or continues it. -/
def advance (value : Option Value) (event : Event) : Option Value :=
  match value with
  | none => machine.create event
  | some value => some (machine.step value event)

/-- The value that a list of events, all for one key, leads to. -/
def history (events : List Event) : Option Value := events.foldl machine.advance none

/-- The events of one key. -/
def own (key : Key) (events : List Event) : List Event :=
  events.filter fun event => machine.key event = key

/-- The last event of a run is fed to what the events before it left. -/
theorem run_append_singleton (events : List Event) (event : Event) :
    machine.run (events ++ [event]) = machine.feed (machine.run events) event := by
  simp only [run, List.foldl_append, List.foldl_cons, List.foldl_nil]

omit [DecidableEq Key] in
/-- The histories of a run grow by its last event. -/
theorem history_append_singleton (events : List Event) (event : Event) :
    machine.history (events ++ [event]) = machine.advance (machine.history events) event := by
  simp only [history, List.foldl_append, List.foldl_cons, List.foldl_nil]

/-- The last event belongs to the events of its own key only. -/
theorem own_append_singleton (key : Key) (events : List Event) (event : Event) :
    machine.own key (events ++ [event]) =
      if machine.key event = key then machine.own key events ++ [event]
      else machine.own key events := by
  rw [own, List.filter_append, List.filter_singleton]
  by_cases h : machine.key event = key
  · rw [if_pos h, decide_eq_true h]
    rfl
  · rw [if_neg h, decide_eq_false h]
    exact List.append_nil _

omit [DecidableEq Key] in
/-- The last event adds its key to the keys opened if it is one that opens a value. -/
theorem opened_append_singleton (events : List Event) (event : Event) :
    machine.opened (events ++ [event]) = machine.opened events ++
      ((machine.create event).map fun _ => machine.key event).toList := by
  rw [opened, List.filterMap_append]
  cases h : machine.create event with
  | none => simp only [List.filterMap_cons, h, Option.map_none, List.filterMap_nil,
      Option.toList_none, opened]
  | some value => simp only [List.filterMap_cons, h, Option.map_some, List.filterMap_nil,
      Option.toList_some, opened]

/-- A history is open once an event of its key has opened one. -/
theorem history_own_eq_none_iff (key : Key) (events : List Event) :
    machine.history (machine.own key events) = none ↔ key ∉ machine.opened events := by
  induction events using List.reverseRecOn with
  | nil => exact ⟨fun _ => List.not_mem_nil, fun _ => rfl⟩
  | append_singleton events event ih =>
    rw [own_append_singleton, opened_append_singleton, List.mem_append, not_or, ← ih]
    split
    next hkey =>
      rw [history_append_singleton]
      cases hvalue : machine.history (machine.own key events) with
      | some value => simp only [advance, reduceCtorEq, false_and]
      | none =>
        simp only [advance, true_and]
        cases machine.create event with
        | none => simp only [Option.map_none, Option.toList_none, List.not_mem_nil,
            not_false_eq_true]
        | some value => simp only [reduceCtorEq, Option.map_some, Option.toList_some,
            List.mem_singleton, hkey, not_true_eq_false]
    next hkey =>
      refine ⟨fun h => ⟨h, ?_⟩, fun h => h.1⟩
      cases machine.create event with
      | none => exact List.not_mem_nil
      | some value => exact fun hmem => hkey (List.mem_singleton.mp hmem).symm

/-- **The table holds the first keys to arrive**, in order, as long as there is room. -/
theorem keys_run (events : List Event) :
    (machine.run events).keys = admitted machine.capacity (machine.opened events) := by
  induction events using List.reverseRecOn with
  | nil => exact (List.take_nil).symm
  | append_singleton events event ih =>
    rw [run_append_singleton, feed, opened_append_singleton]
    cases hlookup : (machine.run events).lookup (machine.key event) with
    | some value =>
      have hmem : machine.key event ∈ admitted machine.capacity (machine.opened events) := by
        rw [← ih, ← KeyedTable.isSome_lookup_iff, hlookup]
        rfl
      refine (KeyedTable.keys_modify _ _ _).trans (ih.trans ?_)
      cases machine.create event with
      | none => rw [Option.map_none, Option.toList_none, List.append_nil]
      | some value =>
        rw [Option.map_some, Option.toList_some, admitted_append_singleton, if_pos hmem]
    | none =>
      have hfresh := KeyedTable.lookup_eq_none_iff.mp hlookup
      cases machine.create event with
      | none =>
        rw [Option.map_none, Option.toList_none, List.append_nil]
        exact ih
      | some value =>
        have hnot : machine.key event ∉ admitted machine.capacity (machine.opened events) :=
          ih ▸ hfresh
        have hsize : (machine.run events).size =
            (admitted machine.capacity (machine.opened events)).length := by
          rw [← ih, KeyedTable.length_keys]
        rw [Option.map_some, Option.toList_some, admitted_append_singleton, if_neg hnot, ← hsize]
        dsimp only
        split
        · rw [KeyedTable.keys_pushBack hfresh, ih]
        · exact ih

/-- **Each key's value is the history of its own events**, if the key was admitted. -/
theorem lookup_run (events : List Event) (key : Key) :
    (machine.run events).lookup key =
      if key ∈ admitted machine.capacity (machine.opened events) then
        machine.history (machine.own key events)
      else none := by
  rw [← keys_run]
  split
  next hmem =>
    -- by induction on the run: an admitted key is stepped by its own events and by no others
    induction events using List.reverseRecOn with
    | nil => exact absurd hmem List.not_mem_nil
    | append_singleton events event ih =>
      rw [run_append_singleton, own_append_singleton]
      rw [run_append_singleton] at hmem
      cases hlookup : (machine.run events).lookup (machine.key event) with
      | some value =>
        simp only [feed, hlookup] at hmem ⊢
        rw [KeyedTable.keys_modify] at hmem
        rw [KeyedTable.lookup_modify, ih hmem]
        split
        next hkey =>
          rw [if_pos hkey.symm, history_append_singleton]
          rw [← hkey, ih hmem] at hlookup
          rw [hlookup]
          rfl
        next hkey => rw [if_neg fun e => hkey e.symm]
      | none =>
        have hfresh := KeyedTable.lookup_eq_none_iff.mp hlookup
        -- a key that is still absent keeps its table entry and its history
        have hother : key ∈ (machine.run events).keys →
            (machine.run events).lookup key = machine.history
              (if machine.key event = key then machine.own key events ++ [event]
                else machine.own key events) := by
          intro hkeys
          have hne : ¬ machine.key event = key := by
            rintro rfl
            exact hfresh hkeys
          rw [if_neg hne]
          exact ih hkeys
        simp only [feed, hlookup] at hmem ⊢
        cases hcreate : machine.create event with
        | none =>
          simp only [hcreate] at hmem ⊢
          exact hother hmem
        | some value =>
          simp only [hcreate] at hmem ⊢
          split at hmem
          next hroom =>
            rw [if_pos hroom, KeyedTable.lookup_pushBack hfresh]
            rw [KeyedTable.keys_pushBack hfresh, List.mem_append, List.mem_singleton] at hmem
            split
            next hkey =>
              -- the first event of a key with room: nothing of it came before
              have hnone : machine.history (machine.own key events) = none := by
                rw [← KeyedTable.length_keys, keys_run] at hroom
                rw [keys_run, mem_admitted_of_room hroom] at hfresh
                rw [history_own_eq_none_iff, hkey]
                exact hfresh
              rw [if_pos hkey.symm, history_append_singleton, hnone, advance, hcreate]
            next hkey =>
              rcases hmem with hmem | hmem
              · exact hother hmem
              · exact absurd hmem hkey
          next hroom =>
            rw [if_neg hroom]
            exact hother hmem
  next hmem => exact KeyedTable.lookup_eq_none_iff.mpr hmem

/-! ### Keys that were turned away -/

/-- A key once stored is never dropped. -/
theorem mem_keys_feed {table : KeyedTable Key Value} {key : Key} (h : key ∈ table.keys)
    (event : Event) : key ∈ (machine.feed table event).keys := by
  rw [feed]
  cases hlookup : table.lookup (machine.key event) with
  | some value =>
    dsimp only
    rw [KeyedTable.keys_modify]
    exact h
  | none =>
    cases machine.create event with
    | none => exact h
    | some value =>
      dsimp only
      split
      · rw [KeyedTable.keys_pushBack (KeyedTable.lookup_eq_none_iff.mp hlookup)]
        exact List.mem_append_left _ h
      · exact h

/-- An event that leaves its own key out of the table leaves the table alone. -/
theorem feed_absent {table : KeyedTable Key Value} {event : Event}
    (absent : machine.key event ∉ (machine.feed table event).keys) :
    machine.feed table event = table := by
  have hlookup : table.lookup (machine.key event) = none :=
    KeyedTable.lookup_eq_none_iff.mpr fun h => absent (machine.mem_keys_feed h event)
  cases hcreate : machine.create event with
  | none => exact machine.feed_ignored hlookup hcreate
  | some value =>
    by_cases hroom : table.size < machine.capacity
    · rw [machine.feed_new hlookup hcreate hroom,
        KeyedTable.keys_pushBack (KeyedTable.lookup_eq_none_iff.mp hlookup)] at absent
      exact absurd (List.mem_append_right _ List.mem_cons_self) absent
    · exact machine.feed_full hlookup hroom

/-- A key that is absent at the end was absent before the last event. -/
theorem absent_of_append_singleton {events : List Event} {event : Event} {key : Key}
    (absent : key ∉ (machine.run (events ++ [event])).keys) :
    key ∉ (machine.run events).keys := by
  rw [run_append_singleton] at absent
  exact fun h => absent (machine.mem_keys_feed h event)

/-- **A key that was turned away leaves no trace**: the run without its events is the same. -/
theorem run_filter_absent {events : List Event} {key : Key}
    (absent : key ∉ (machine.run events).keys) :
    machine.run (events.filter fun event => machine.key event ≠ key) = machine.run events := by
  induction events using List.reverseRecOn with
  | nil => rfl
  | append_singleton events event ih =>
    have hbefore := ih (machine.absent_of_append_singleton absent)
    rw [List.filter_append, List.filter_singleton]
    by_cases hkey : machine.key event = key
    · rw [decide_eq_false fun hne => hne hkey, cond_false, List.append_nil, hbefore,
        run_append_singleton]
      rw [run_append_singleton, ← hkey] at absent
      exact (machine.feed_absent absent).symm
    · rw [decide_eq_true hkey, cond_true, run_append_singleton, run_append_singleton, hbefore]

end BoundedMachine

end Driveflow.Library

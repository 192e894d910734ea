/-!
# Command lines of options and values

An argument list is read two at a time, an option and its value, by a step that may fail; an option
without a value fails too. An invariant of the state and the pairs read so far is proved by the step
alone (`foldPairs_invariant`).

Where a step comes to the state its pairs describe, and refuses nothing but a bad value and a second
value (`DescribedBy`), the whole loop is known from its pairs (`DescribedBy.foldPairs_eq_ok_iff`),
and what is looked up in them does not depend on their order (`given_eq_of_perm`).
-/

namespace Driveflow.Library

section OptionPairs

variable {Argument State Failure : Type}

/-- The options with their values; an option without a value is left out. -/
def optionPairs : List Argument → List (Argument × Argument)
  | [] => []
  | [_] => []
  | option :: value :: rest => (option, value) :: optionPairs rest

/-- The loop over the arguments. -/
def foldPairs (missing : Argument → Failure)
    (step : State → Argument → Argument → Except Failure State) :
    State → List Argument → Except Failure State
  | state, [] => .ok state
  | _, [option] => .error (missing option)
  | state, option :: value :: rest => do
    let state ← step state option value
    foldPairs missing step state rest

variable {missing : Argument → Failure}
  {step : State → Argument → Argument → Except Failure State}

/-- The fold accepts a pair and a rest exactly if the step accepts the pair and the fold accepts
the rest from there. -/
theorem foldPairs_cons_eq_ok {state final : State} {option value : Argument}
    {rest : List Argument} :
    foldPairs missing step state (option :: value :: rest) = .ok final ↔
      ∃ next, step state option value = .ok next ∧ foldPairs missing step next rest = .ok final := by
  rw [foldPairs]
  cases step state option value with
  | error failure => exact ⟨nofun, nofun⟩
  | ok next => exact ⟨fun h => ⟨next, rfl, h⟩, fun ⟨_, h, hrest⟩ => Except.ok.inj h ▸ hrest⟩

private theorem foldPairs_invariant_from {arguments : List Argument} {state final : State}
    {before : List (Argument × Argument)}
    (h : foldPairs missing step state arguments = .ok final)
    (inv : List (Argument × Argument) → State → Prop) (start : inv before state)
    (preserved : ∀ before state option value next, inv before state →
      step state option value = .ok next → inv (before ++ [(option, value)]) next) :
    inv (before ++ optionPairs arguments) final := by
  induction arguments using optionPairs.induct generalizing before state with
  | case1 =>
    cases h
    rwa [optionPairs, List.append_nil]
  | case2 => exact nomatch h
  | case3 option value rest ih =>
    obtain ⟨next, hstep, hrest⟩ := foldPairs_cons_eq_ok.mp h
    have hfinal := ih hrest (preserved _ _ _ _ _ start hstep)
    rwa [List.append_assoc] at hfinal

/-- **The invariant rule.** -/
theorem foldPairs_invariant {arguments : List Argument} {state final : State}
    (h : foldPairs missing step state arguments = .ok final)
    (inv : List (Argument × Argument) → State → Prop) (start : inv [] state)
    (preserved : ∀ before state option value next, inv before state →
      step state option value = .ok next → inv (before ++ [(option, value)]) next) :
    inv (optionPairs arguments) final :=
  foldPairs_invariant_from h inv start preserved

/-- The argument list of the pairs. -/
def pairArguments (pairs : List (Argument × Argument)) : List Argument :=
  pairs.flatMap fun pair => [pair.1, pair.2]

@[simp] theorem optionPairs_pairArguments (pairs : List (Argument × Argument)) :
    optionPairs (pairArguments pairs) = pairs := by
  induction pairs with
  | nil => rfl
  | cons pair rest ih => exact congrArg (pair :: ·) ih

/-- Every pair is two arguments. -/
theorem length_pairArguments (pairs : List (Argument × Argument)) :
    (pairArguments pairs).length = 2 * pairs.length := by
  induction pairs with
  | nil => rfl
  | cons pair rest ih => exact congrArg (· + 2) ih

end OptionPairs

/-! ## Loops that the pairs describe -/

section DescribedBy

variable {Argument State Failure : Type}

/-- Only a repeatable option is given twice. -/
def Once (repeatable : Argument → Prop) (pairs : List (Argument × Argument)) : Prop :=
  pairs.Pairwise fun pair later => pair.1 = later.1 → repeatable later.1

/-- That no option is repeated without leave does not depend on the order of the pairs. -/
theorem Once.perm {repeatable : Argument → Prop} {pairs others : List (Argument × Argument)}
    (once : Once repeatable pairs) (perm : pairs.Perm others) : Once repeatable others :=
  List.Pairwise.perm once perm fun h heq => heq ▸ h heq.symm

/-- A step that fails for a bad value and for a second value of an option that is not repeatable,
and otherwise comes to the state the pairs describe. -/
structure DescribedBy (step : State → Argument → Argument → Except Failure State)
    (repeatable : Argument → Prop) (valid : Argument → Argument → Prop)
    (described : List (Argument × Argument) → State) : Prop where
  step_eq_ok_iff : ∀ before option value next, step (described before) option value = .ok next ↔
    (∀ pair ∈ before, pair.1 = option → repeatable option) ∧ valid option value ∧
      next = described (before ++ [(option, value)])

variable {missing : Argument → Failure}
  {step : State → Argument → Argument → Except Failure State}
  {repeatable : Argument → Prop} {valid : Argument → Argument → Prop}
  {described : List (Argument × Argument) → State}

private theorem DescribedBy.foldPairs_from
    (describedBy : DescribedBy step repeatable valid described)
    {arguments : List Argument} {before : List (Argument × Argument)} {final : State} :
    foldPairs missing step (described before) arguments = .ok final ↔
      arguments.length % 2 = 0 ∧
      ((∀ pair ∈ before, ∀ later ∈ optionPairs arguments, pair.1 = later.1 → repeatable later.1) ∧
        Once repeatable (optionPairs arguments)) ∧
      (∀ pair ∈ optionPairs arguments, valid pair.1 pair.2) ∧
      final = described (before ++ optionPairs arguments) := by
  induction arguments using optionPairs.induct generalizing before with
  | case1 =>
    rw [foldPairs, optionPairs, List.append_nil]
    constructor
    · intro h
      exact ⟨rfl, ⟨nofun, .nil⟩, nofun, (Except.ok.inj h).symm⟩
    · rintro ⟨_, _, _, rfl⟩
      rfl
  | case2 => exact ⟨nofun, nofun⟩
  | case3 option value rest ih =>
    have happend : before ++ (option, value) :: optionPairs rest =
        before ++ [(option, value)] ++ optionPairs rest := by
      rw [List.append_assoc, List.singleton_append]
    have hlength : (option :: value :: rest).length % 2 = rest.length % 2 :=
      Nat.add_mod_right rest.length 2
    rw [foldPairs_cons_eq_ok, optionPairs, happend, hlength]
    constructor
    · rintro ⟨next, hstep, hrest⟩
      obtain ⟨hnew, hvalid, rfl⟩ := (describedBy.step_eq_ok_iff _ _ _ _).mp hstep
      obtain ⟨heven, ⟨hbefore, honce⟩, hvalids, hfinal⟩ := ih.mp hrest
      refine ⟨heven, ⟨fun pair hpair => ?_, .cons (fun later hlater => ?_) honce⟩,
        List.forall_mem_cons.mpr ⟨hvalid, hvalids⟩, hfinal⟩
      · exact List.forall_mem_cons.mpr
          ⟨hnew pair hpair, hbefore pair (List.mem_append_left _ hpair)⟩
      · exact hbefore _ (List.mem_append_right _ (List.mem_singleton_self _)) later hlater
    · rintro ⟨heven, ⟨hbefore, honce⟩, hvalids, hfinal⟩
      obtain ⟨hhead, honce⟩ := List.pairwise_cons.mp honce
      obtain ⟨hvalid, hvalids⟩ := List.forall_mem_cons.mp hvalids
      refine ⟨_, (describedBy.step_eq_ok_iff _ _ _ _).mpr ⟨fun pair hpair => ?_, hvalid, rfl⟩,
        ih.mpr ⟨heven, ⟨fun pair hpair => ?_, honce⟩, hvalids, hfinal⟩⟩
      · exact hbefore pair hpair _ List.mem_cons_self
      · rcases List.mem_append.mp hpair with hpair | hpair
        · exact fun later hlater => hbefore pair hpair later (List.mem_cons_of_mem _ hlater)
        · exact List.mem_singleton.mp hpair ▸ hhead

/-- **What a described loop comes to**, and when it does. -/
theorem DescribedBy.foldPairs_eq_ok_iff
    (describedBy : DescribedBy step repeatable valid described)
    {arguments : List Argument} {final : State} :
    foldPairs missing step (described []) arguments = .ok final ↔
      arguments.length % 2 = 0 ∧ Once repeatable (optionPairs arguments) ∧
      (∀ pair ∈ optionPairs arguments, valid pair.1 pair.2) ∧
      final = described (optionPairs arguments) := by
  rw [describedBy.foldPairs_from]
  exact and_congr_right fun _ => and_congr_left fun _ => ⟨And.right, fun once => ⟨nofun, once⟩⟩

end DescribedBy

/-! ## What an option was given -/

section Given

variable {Argument Value : Type} [DecidableEq Argument]

/-- The value of an option, as it is read; none if the option is not given. -/
def given (pairs : List (Argument × Argument)) (option : Argument)
    (read : Argument → Option Value) : Option Value :=
  (pairs.lookup option).bind read

variable {pairs others : List (Argument × Argument)} {option : Argument}
  {read : Argument → Option Value}

/-- A later pair of another option leaves the value given to this one. -/
theorem given_append_of_ne {other : Argument} (hne : other ≠ option) (value : Argument) :
    given (pairs ++ [(option, value)]) other read = given pairs other read := by
  rw [given, List.lookup_append, List.lookup_singleton, if_neg fun heq => hne (eq_of_beq heq),
    Option.or_none, given]

/-- The first pair of an option gives its value and leaves the values of all others. -/
theorem given_append (fresh : ∀ pair ∈ pairs, pair.1 ≠ option) (value other : Argument) :
    given (pairs ++ [(option, value)]) other read =
      if other = option then read value else given pairs other read := by
  by_cases heq : other = option
  · have hnone : pairs.lookup option = none :=
      List.lookup_eq_none_iff.mpr fun pair hpair => bne_iff_ne.mpr (fresh pair hpair).symm
    rw [given, List.lookup_append, List.lookup_singleton, heq, if_pos (beq_self_eq_true _),
      if_pos rfl, hnone]
    rfl
  · rw [if_neg heq, given_append_of_ne heq]

/-- An option that is given at most once has the value of its only pair. -/
theorem lookup_eq_some_iff_mem {repeatable : Argument → Prop} (once : Once repeatable pairs)
    (single : ¬ repeatable option) {value : Argument} :
    pairs.lookup option = some value ↔ (option, value) ∈ pairs := by
  induction pairs with
  | nil => exact ⟨nofun, nofun⟩
  | cons pair rest ih =>
    obtain ⟨hhead, honce⟩ := List.pairwise_cons.mp once
    rw [List.lookup_cons, List.mem_cons]
    by_cases heq : option = pair.1
    · rw [beq_iff_eq.mpr heq]
      constructor
      · intro h
        exact .inl (Prod.ext heq (Option.some.inj h).symm)
      · rintro (h | h)
        · exact congrArg some (congrArg Prod.snd h).symm
        · exact absurd (hhead _ h heq.symm) single
    · rw [beq_false_of_ne heq]
      exact (ih honce).trans (or_iff_right fun h => heq (congrArg Prod.fst h)).symm

/-- **What an option was given does not depend on the order.** -/
theorem given_eq_of_perm {repeatable : Argument → Prop} (once : Once repeatable pairs)
    (perm : pairs.Perm others) (single : ¬ repeatable option) :
    given pairs option read = given others option read := by
  have hlookup : pairs.lookup option = others.lookup option :=
    Option.ext fun value => (lookup_eq_some_iff_mem once single).trans
      (perm.mem_iff.trans (lookup_eq_some_iff_mem (once.perm perm) single).symm)
  rw [given, hlookup, given]

end Given

end Driveflow.Library

/-!
# Computations that log what they do

A computation of an optional value that keeps a log of its events, up to where it stops. Without the
log it is a computation in `Option` (`value_bind`), and what holds of every event is proved along
the binds (`Only.bind`).
-/

namespace Driveflow.Library

/-- A computation with its log; `none` is a computation that stops. -/
structure Logged (Event Value : Type) where
  value : Option Value
  log : List Event

namespace Logged

variable {Event Value Result Item : Type}

protected def bind (run : Logged Event Value) (next : Value → Logged Event Result) :
    Logged Event Result :=
  match run.value with
  | none => { value := none, log := run.log }
  | some value => { value := (next value).value, log := run.log ++ (next value).log }

instance : Monad (Logged Event) where
  pure value := { value := some value, log := [] }
  bind := Logged.bind

/-- One event. -/
def event (event : Event) : Logged Event Unit := { value := some (), log := [event] }

/-- A value, or a stop, that logs nothing. -/
def ofOption (value : Option Value) : Logged Event Value := { value, log := [] }

/-! ## The value -/

@[simp] theorem value_pure (value : Value) : (pure value : Logged Event Value).value = some value :=
  rfl

@[simp] theorem value_event (event : Event) : (Logged.event event).value = some () := rfl

@[simp] theorem value_ofOption (value : Option Value) :
    (ofOption value : Logged Event Value).value = value := rfl

/-- The value of a composed run is the composition of the values, whatever is logged. -/
@[simp] theorem value_bind (run : Logged Event Value) (next : Value → Logged Event Result) :
    (run >>= next).value = run.value >>= fun value => (next value).value := by
  change (run.bind next).value = _
  unfold Logged.bind
  cases run.value with
  | none => rfl
  | some value => rfl

@[simp] theorem value_ite (condition : Prop) [Decidable condition] (yes no : Logged Event Value) :
    (if condition then yes else no).value = if condition then yes.value else no.value :=
  apply_ite Logged.value condition yes no

/-- A logged fold computes what the fold of the values computes. -/
theorem value_foldlM (step : Value → Item → Logged Event Value) (items : List Item)
    (start : Value) :
    (items.foldlM step start).value =
      items.foldlM (fun value item => (step value item).value) start := by
  induction items generalizing start with
  | nil => rfl
  | cons item items ih =>
    rw [List.foldlM_cons, List.foldlM_cons, value_bind]
    exact congrArg (_ >>= ·) (funext ih)

/-! ## The log -/

/-- Nothing but allowed events. -/
def Only (allowed : Event → Prop) (run : Logged Event Value) : Prop :=
  ∀ event ∈ run.log, allowed event

variable {allowed : Event → Prop}

/-- A value that is only returned logs nothing. -/
theorem only_pure (value : Value) : (pure value : Logged Event Value).Only allowed := nofun

/-- An optional value logs nothing, whether it is there or not. -/
theorem only_ofOption (value : Option Value) : (ofOption value : Logged Event Value).Only allowed :=
  nofun

/-- A single allowed event is all that its own run logs. -/
theorem only_event {event : Event} (h : allowed event) : (Logged.event event).Only allowed :=
  fun _ hevent => List.mem_singleton.mp hevent ▸ h

/-- A composed run logs allowed events only if its first part does and its second part does for
the value the first returned. -/
theorem Only.bind {run : Logged Event Value} {next : Value → Logged Event Result}
    (first : run.Only allowed) (rest : ∀ value, run.value = some value → (next value).Only allowed) :
    (run >>= next).Only allowed := by
  change (run.bind next).Only allowed
  unfold Logged.bind
  cases hvalue : run.value with
  | none => exact first
  | some value =>
    intro event hevent
    rcases List.mem_append.mp hevent with hevent | hevent
    · exact first event hevent
    · exact rest value hvalue event hevent

/-- A fold logs allowed events only if each of its steps does. -/
theorem only_foldlM {step : Value → Item → Logged Event Value} {items : List Item}
    (h : ∀ item ∈ items, ∀ value, (step value item).Only allowed) (start : Value) :
    (items.foldlM step start).Only allowed := by
  induction items generalizing start with
  | nil => exact only_pure start
  | cons item items ih =>
    rw [List.foldlM_cons]
    exact (h item List.mem_cons_self start).bind fun value _ =>
      ih (fun later hlater => h later (List.mem_cons_of_mem _ hlater)) value

end Logged

end Driveflow.Library

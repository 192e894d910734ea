import Driveflow.Laws.Runtime.GivenOptions
import Driveflow.Laws.Simulator.CommandLine
import Driveflow.Laws.Simulator.Summary

/-!
# What the simulator's options give

The loop of `parse_simulator_config` keeps the value of each option and nothing else: its state is
read off the pairs (`described`), and it fails only for a bad value and for a second one
(`describedBy_parseOption`). So the faults of a parsed configuration are those that were asked for
(`validated_of_parsed`).
-/

namespace Driveflow.Simulator

open Library Net Protocol

/-! ## The options on their own -/

section Options

variable {fromCharsDouble : FromCharsDouble} {options next : SimulatorOptions}
  {option value : String}

/-- The converse of `setsOption_of_setOption`. -/
theorem SetsOption.setOption_eq (h : SetsOption fromCharsDouble options value option next) :
    setOption fromCharsDouble options option value = .ok next := by
  cases h with
  | destination => rfl
  | sensor hvalue => simp [setOption, hvalue, bind, Except.bind]
  | port hvalue => simp [setOption, hvalue]
  | rate hvalue => simp [setOption, hvalue]
  | count hvalue => simp [setOption, hvalue]
  | extraBytes hvalue => simp [setOption, hvalue, bind, Except.bind]
  | drop hvalue => simp [setOption, hvalue, bind, Except.bind]
  | duplicate hvalue => simp [setOption, hvalue, bind, Except.bind]
  | reorder hvalue => simp [setOption, hvalue, bind, Except.bind]
  | delayEvery hvalue => simp [setOption, hvalue, bind, Except.bind]
  | delayMs hvalue => simp [setOption, hvalue, bind, Except.bind]
  | corrupt hvalue => simp [setOption, hvalue, bind, Except.bind]

/-- `SetsOption` is all that setting an option does. -/
theorem setOption_eq_ok_iff : setOption fromCharsDouble options option value = .ok next ↔
    SetsOption fromCharsDouble options value option next :=
  ⟨setsOption_of_setOption, SetsOption.setOption_eq⟩

/-- Whether a value is good does not depend on the other options. -/
theorem SetsOption.anywhere (h : SetsOption fromCharsDouble options value option next)
    (others : SimulatorOptions) : ∃ set, SetsOption fromCharsDouble others value option set := by
  cases h with
  | destination => exact ⟨_, .destination⟩
  | sensor hvalue => exact ⟨_, .sensor hvalue⟩
  | port hvalue => exact ⟨_, .port hvalue⟩
  | rate hvalue => exact ⟨_, .rate hvalue⟩
  | count hvalue => exact ⟨_, .count hvalue⟩
  | extraBytes hvalue => exact ⟨_, .extraBytes hvalue⟩
  | drop hvalue => exact ⟨_, .drop hvalue⟩
  | duplicate hvalue => exact ⟨_, .duplicate hvalue⟩
  | reorder hvalue => exact ⟨_, .reorder hvalue⟩
  | delayEvery hvalue => exact ⟨_, .delayEvery hvalue⟩
  | delayMs hvalue => exact ⟨_, .delayMs hvalue⟩
  | corrupt hvalue => exact ⟨_, .corrupt hvalue⟩

end Options

/-- The option is known and its value can be read. -/
def ValidOption (fromCharsDouble : FromCharsDouble) (option value : String) : Prop :=
  ∃ next, SetsOption fromCharsDouble {} value option next

/-! ## The state that the pairs describe -/

def readSensor (value : String) : Option SensorType := (parseSensor value).toOption

def readInterval (name value : String) : Option (BitVec 64) :=
  (parseInterval name value.toList).toOption

def readDelayMs (value : String) : Option (BitVec 64) := (parseDelayMs value.toList).toOption

def readExtraBytes (value : String) : Option Nat := (parseExtraBytes value.toList).toOption

/-- What the loop keeps of the pairs it has read. -/
def described (fromCharsDouble : FromCharsDouble) (pairs : List (String × String)) :
    SimulatorOptions where
  config :=
    { sensorType := (given pairs "--sensor" readSensor).getD .kImu
      destination :=
        { address := (given pairs "--destination" some).getD "127.0.0.1"
          port := (given pairs "--port" fun value => parseNumber 16 value.toList).getD 9000 }
      rateHz := (given pairs "--rate-hz" fun value =>
        parseDouble fromCharsDouble value.toList).getD (some 0)
      packetCount := given pairs "--count" fun value => parseNumber 64 value.toList
      cameraExtraDataBytes := (given pairs "--camera-extra-bytes" readExtraBytes).getD 0
      faults :=
        { dropEvery := given pairs "--drop-every" (readInterval "drop-every")
          duplicateEvery := given pairs "--duplicate-every" (readInterval "duplicate-every")
          reorderEvery := given pairs "--reorder-every" (readInterval "reorder-every")
          corruptEvery := given pairs "--corrupt-every" (readInterval "corrupt-every") } }
  hasSensor := (given pairs "--sensor" some).isSome
  hasExplicitRate := (given pairs "--rate-hz" some).isSome
  delayEvery := given pairs "--delay-every" (readInterval "delay-every")
  delayMs := given pairs "--delay-ms" readDelayMs
  seenOptions := (pairs.map Prod.fst).reverse

/-- An option set for the first time leaves what the pairs with it describe. -/
theorem setsOption_described {fromCharsDouble : FromCharsDouble} {before : List (String × String)}
    {option value : String} {next : SimulatorOptions}
    (fresh : ∀ pair ∈ before, pair.1 ≠ option)
    (h : SetsOption fromCharsDouble
      { described fromCharsDouble before with
        seenOptions := option :: (described fromCharsDouble before).seenOptions } value option next) :
    next = described fromCharsDouble (before ++ [(option, value)]) := by
  have hgiven {Value : Type} (other : String) (read : String → Option Value) :
      given (before ++ [(option, value)]) other read =
        if other = option then read value else given before other read :=
    given_append fresh value other
  cases h with
  | destination => simp [described, hgiven]
  | sensor hvalue => simp [described, hgiven, readSensor, hvalue, Except.toOption]
  | port hvalue => simp [described, hgiven, hvalue]
  | rate hvalue => simp [described, hgiven, hvalue]
  | count hvalue => simp [described, hgiven, hvalue]
  | extraBytes hvalue => simp [described, hgiven, readExtraBytes, hvalue, Except.toOption]
  | drop hvalue => simp [described, hgiven, readInterval, hvalue, Except.toOption]
  | duplicate hvalue => simp [described, hgiven, readInterval, hvalue, Except.toOption]
  | reorder hvalue => simp [described, hgiven, readInterval, hvalue, Except.toOption]
  | delayEvery hvalue => simp [described, hgiven, readInterval, hvalue, Except.toOption]
  | delayMs hvalue => simp [described, hgiven, readDelayMs, hvalue, Except.toOption]
  | corrupt hvalue => simp [described, hgiven, readInterval, hvalue, Except.toOption]

/-- The options seen are those of the pairs. -/
theorem mem_seenOptions_described {fromCharsDouble : FromCharsDouble}
    {pairs : List (String × String)} {option : String} :
    option ∈ (described fromCharsDouble pairs).seenOptions ↔ ∃ pair ∈ pairs, pair.1 = option :=
  List.mem_reverse.trans List.mem_map

/-- **The loop keeps what the pairs describe.** -/
theorem describedBy_parseOption (fromCharsDouble : FromCharsDouble) :
    DescribedBy (parseOption fromCharsDouble) (fun _ => False) (ValidOption fromCharsDouble)
      (described fromCharsDouble) where
  step_eq_ok_iff before option value next := by
    rw [parseOption]
    by_cases hseen : option ∈ (described fromCharsDouble before).seenOptions
    · obtain ⟨pair, hpair, heq⟩ := mem_seenOptions_described.mp hseen
      rw [if_pos hseen]
      exact ⟨nofun, fun h => (h.1 pair hpair heq).elim⟩
    · have hfresh (pair) (hpair : pair ∈ before) : pair.1 ≠ option :=
        fun heq => hseen (mem_seenOptions_described.mpr ⟨pair, hpair, heq⟩)
      rw [if_neg hseen, setOption_eq_ok_iff]
      constructor
      · intro h
        exact ⟨hfresh, h.anywhere _, setsOption_described hfresh h⟩
      · rintro ⟨_, ⟨_, hvalid⟩, rfl⟩
        obtain ⟨set, hset⟩ := hvalid.anywhere _
        exact setsOption_described hfresh hset ▸ hset

/-- **What the loop comes to**, and when it does. -/
theorem loop_eq_ok_iff {fromCharsDouble : FromCharsDouble} {arguments : List String}
    {options : SimulatorOptions} :
    foldPairs (fun _ => "every option requires a value") (parseOption fromCharsDouble) {}
        arguments = .ok options ↔
      arguments.length % 2 = 0 ∧ Once (fun _ => False) (optionPairs arguments) ∧
      (∀ pair ∈ optionPairs arguments, ValidOption fromCharsDouble pair.1 pair.2) ∧
      options = described fromCharsDouble (optionPairs arguments) :=
  (describedBy_parseOption fromCharsDouble).foldPairs_eq_ok_iff

/-! ## The order of the options -/

section Order

variable {calls : SocketCalls} {fromCharsDouble : FromCharsDouble}
  {pairs others : List (String × String)}

/-- What the pairs describe does not depend on their order, but for the list of seen options, which
the checks behind the loop do not read. -/
theorem finishOptions_described_of_perm (once : Once (fun _ => False) pairs)
    (perm : pairs.Perm others) :
    finishOptions calls (described fromCharsDouble pairs) =
      finishOptions calls (described fromCharsDouble others) := by
  have hgiven {Value : Type} (option : String) (read : String → Option Value) :
      given pairs option read = given others option read :=
    given_eq_of_perm once perm not_false
  have hsame : { described fromCharsDouble pairs with seenOptions := [] } =
      { described fromCharsDouble others with seenOptions := [] } := by
    simp only [described, hgiven]
  have hunread (options : SimulatorOptions) :
      finishOptions calls options = finishOptions calls { options with seenOptions := [] } := rfl
  rw [hunread, hsame, ← hunread]

/-- Any order of the pairs is parsed to the same configuration. -/
theorem parseSimulatorConfig_of_perm {config : SimulatorConfig} (perm : pairs.Perm others)
    (h : parseSimulatorConfig calls fromCharsDouble (pairArguments pairs) = .ok config) :
    parseSimulatorConfig calls fromCharsDouble (pairArguments others) = .ok config := by
  obtain ⟨options, hloop, hfinish⟩ := bind_eq_ok.mp h
  obtain ⟨_, honce, hvalid, rfl⟩ := loop_eq_ok_iff.mp hloop
  rw [optionPairs_pairArguments] at honce hvalid hfinish
  refine bind_eq_ok.mpr ⟨described fromCharsDouble others, loop_eq_ok_iff.mpr ?_,
    finishOptions_described_of_perm honce perm ▸ hfinish⟩
  rw [optionPairs_pairArguments, length_pairArguments]
  exact ⟨Nat.mul_mod_right 2 _, honce.perm perm,
    fun pair hpair => hvalid pair (perm.mem_iff.mpr hpair), rfl⟩

end Order

/-- **The order of the options does not matter**: not to the runtime, where only the listeners keep
theirs, and not to the simulator. -/
theorem parse_iff_of_perm {calls : SocketCalls} {fromCharsDouble : FromCharsDouble}
    {pairs others : List (String × String)} (perm : pairs.Perm others) :
    (((pairs.filter fun pair => pair.1 = "--listen") =
        others.filter fun pair => pair.1 = "--listen") →
      ∀ config, Runtime.parseRuntimeConfig calls (pairArguments pairs) = .ok config ↔
        Runtime.parseRuntimeConfig calls (pairArguments others) = .ok config) ∧
    ∀ config, parseSimulatorConfig calls fromCharsDouble (pairArguments pairs) = .ok config ↔
      parseSimulatorConfig calls fromCharsDouble (pairArguments others) = .ok config :=
  ⟨fun listens _ => ⟨Runtime.parseRuntimeConfig_of_perm perm listens,
      Runtime.parseRuntimeConfig_of_perm perm.symm listens.symm⟩,
    fun _ => ⟨parseSimulatorConfig_of_perm perm, parseSimulatorConfig_of_perm perm.symm⟩⟩

/-- `std::from_chars` of a text of digits. -/
def wholeDouble : FromCharsDouble := fun text =>
  (fromChars 53 text).map fun read => (some (read.1.toNat : ℚ), read.2)

/-- Two listeners keep their order around a number. -/
theorem parse_iff_of_perm_listeners :
    let config : Runtime.RuntimeConfig :=
      { receiver := { listenEndpoints := [{ address := "127.0.0.1", port := 9001 },
          { address := "127.0.0.1", port := 9002 }] }
        pipeline := { workerCount := 2 } }
    Runtime.parseRuntimeConfig loopback.calls
        ["--listen", "127.0.0.1:9001", "--listen", "127.0.0.1:9002", "--workers", "2"] =
      .ok config ∧
    Runtime.parseRuntimeConfig loopback.calls
        ["--workers", "2", "--listen", "127.0.0.1:9001", "--listen", "127.0.0.1:9002"] =
      .ok config := by
  intro config
  have hparsed : Runtime.parseRuntimeConfig loopback.calls
      ["--listen", "127.0.0.1:9001", "--listen", "127.0.0.1:9002", "--workers", "2"] =
      .ok config := by decide +kernel
  have hperm : [("--listen", "127.0.0.1:9001"), ("--listen", "127.0.0.1:9002"),
      ("--workers", "2")].Perm [("--workers", "2"), ("--listen", "127.0.0.1:9001"),
      ("--listen", "127.0.0.1:9002")] := by decide
  have horder := @parse_iff_of_perm loopback.calls wholeDouble _ _ hperm
  exact ⟨hparsed, (horder.1 (by decide) config).mp hparsed⟩

/-! ## The faults that were asked for -/

/-- The interval of an option, if the option is given. -/
structure GivenInterval (pairs : List (String × String)) (option : String)
    (interval : Option (BitVec 64)) : Prop where
  isSome_iff : interval.isSome = true ↔ ∃ value, (option, value) ∈ pairs
  number : ∀ value, (option, value) ∈ pairs →
    ∃ number, interval = some number ∧ number ≠ 0 ∧ IsDecimal value.toList number.toNat

/-- The delay of the two delay options, if they are given. -/
structure GivenDelay (pairs : List (String × String)) (delay : Option PeriodicDelay) : Prop where
  isSome_iff : delay.isSome = true ↔
    (∃ value, ("--delay-every", value) ∈ pairs) ∧ ∃ value, ("--delay-ms", value) ∈ pairs
  numbers : ∀ every milliseconds,
    ("--delay-every", every) ∈ pairs → ("--delay-ms", milliseconds) ∈ pairs →
    ∃ set, delay = some set ∧ set.every ≠ 0 ∧ IsDecimal every.toList set.every.toNat ∧
      0 < set.duration ∧ IsDecimal milliseconds.toList set.duration.toNat

section Given

variable {fromCharsDouble : FromCharsDouble} {pairs : List (String × String)}

/-- An option that is given once is read from its only value. -/
theorem given_eq_read {Value : Type} (once : Once (fun _ => False) pairs) {option value : String}
    (h : (option, value) ∈ pairs) (read : String → Option Value) :
    given pairs option read = read value := by
  rw [given, (lookup_eq_some_iff_mem once not_false).mpr h]
  rfl

/-- What was read was read from the value of some pair. -/
theorem exists_of_given {Value : Type} (once : Once (fun _ => False) pairs) {option : String}
    {read : String → Option Value} {result : Value} (h : given pairs option read = some result) :
    ∃ value, (option, value) ∈ pairs ∧ read value = some result := by
  obtain ⟨value, hlookup, hread⟩ := Option.bind_eq_some_iff.mp h
  exact ⟨value, (lookup_eq_some_iff_mem once not_false).mp hlookup, hread⟩

/-- The options with an interval, under the names of their errors. -/
def intervalOptions : List (String × String) :=
  [("--drop-every", "drop-every"), ("--duplicate-every", "duplicate-every"),
    ("--reorder-every", "reorder-every"), ("--delay-every", "delay-every"),
    ("--corrupt-every", "corrupt-every")]

/-- A good value of an option with an interval is an interval. -/
theorem parseInterval_of_valid {option name value : String}
    (known : (option, name) ∈ intervalOptions) (valid : ValidOption fromCharsDouble option value) :
    ∃ interval, parseInterval name value.toList = .ok interval := by
  obtain ⟨next, h⟩ := valid
  cases h with
  | drop hvalue | duplicate hvalue | reorder hvalue | delayEvery hvalue | corrupt hvalue =>
    simp only [intervalOptions, List.mem_cons, Prod.mk.injEq, String.reduceEq, false_and, true_and,
      List.not_mem_nil, or_self, or_false, false_or] at known
    exact ⟨_, known ▸ hvalue⟩
  | _ => simp [intervalOptions] at known

/-- A good value of `--delay-ms` is a delay. -/
theorem parseDelayMs_of_valid {option value : String} (known : option = "--delay-ms")
    (valid : ValidOption fromCharsDouble option value) :
    ∃ durationMs, parseDelayMs value.toList = .ok durationMs := by
  obtain ⟨next, h⟩ := valid
  cases h with
  | delayMs hvalue => exact ⟨_, hvalue⟩
  | _ => simp at known

/-- An option with an interval gives its interval. -/
theorem givenInterval (once : Once (fun _ => False) pairs)
    (valid : ∀ pair ∈ pairs, ValidOption fromCharsDouble pair.1 pair.2) {option name : String}
    (known : (option, name) ∈ intervalOptions) :
    GivenInterval pairs option (given pairs option (readInterval name)) := by
  have hnumber (value : String) (h : (option, value) ∈ pairs) :
      ∃ number, given pairs option (readInterval name) = some number ∧ number ≠ 0 ∧
        IsDecimal value.toList number.toNat := by
    obtain ⟨interval, hinterval⟩ := parseInterval_of_valid known (valid _ h)
    obtain ⟨hdecimal, hpositive⟩ := parseInterval_eq_ok hinterval
    refine ⟨interval, ?_, hpositive, hdecimal⟩
    rw [given_eq_read once h, readInterval, hinterval]
    rfl
  refine ⟨⟨fun h => ?_, fun ⟨value, h⟩ => ?_⟩, hnumber⟩
  · obtain ⟨interval, hinterval⟩ := Option.isSome_iff_exists.mp h
    obtain ⟨value, hvalue, _⟩ := exists_of_given once hinterval
    exact ⟨value, hvalue⟩
  · obtain ⟨number, hinterval, _⟩ := hnumber value h
    exact Option.isSome_of_eq_some hinterval

/-- The delay is the one of the two delay options. -/
theorem givenDelay (once : Once (fun _ => False) pairs)
    (valid : ∀ pair ∈ pairs, ValidOption fromCharsDouble pair.1 pair.2) {calls : SocketCalls}
    {config : SimulatorConfig}
    (h : finishOptions calls (described fromCharsDouble pairs) = .ok config)
    (positive : Positive (described fromCharsDouble pairs)) :
    GivenDelay pairs config.faults.delay := by
  have hevery : GivenInterval pairs "--delay-every" (described fromCharsDouble pairs).delayEvery :=
    givenInterval once valid (by decide)
  obtain ⟨rated, finished⟩ := finished_of_finishOptions h
  have hread (milliseconds : String) (hms : ("--delay-ms", milliseconds) ∈ pairs) :
      ∃ durationMs, (described fromCharsDouble pairs).delayMs = some durationMs ∧
        IsDecimal milliseconds.toList durationMs.toNat := by
    obtain ⟨durationMs, hduration⟩ := parseDelayMs_of_valid rfl (valid _ hms)
    refine ⟨durationMs, ?_, (parseDelayMs_eq_ok hduration).1⟩
    change given pairs "--delay-ms" readDelayMs = _
    rw [given_eq_read once hms, readDelayMs, hduration]
    rfl
  rcases finished.delay with ⟨hno, hnoMs, rfl⟩ | ⟨every, delayMs, hset, hsetMs, rfl⟩
  · have hnone : config.faults.delay = none := congrArg (·.delay) finished.faults
    refine ⟨?_, fun _ milliseconds _ hms => ?_⟩
    · rw [hnone]
      refine ⟨by simp, fun hgiven => ?_⟩
      have hisSome := hevery.isSome_iff.mpr hgiven.1
      rw [hno] at hisSome
      cases hisSome
    · obtain ⟨_, hsome, _⟩ := hread milliseconds hms
      cases hnoMs.symm.trans hsome
  · refine ⟨⟨fun _ => ⟨?_, ?_⟩, fun _ => rfl⟩, fun given milliseconds hgiven hms => ?_⟩
    · exact hevery.isSome_iff.mp (Option.isSome_of_eq_some hset)
    · obtain ⟨milliseconds, hms, _⟩ := exists_of_given once hsetMs
      exact ⟨milliseconds, hms⟩
    · obtain ⟨number, hnumber, hpositive, hdecimal⟩ := hevery.number given hgiven
      obtain ⟨durationMs, hduration, hdecimalMs⟩ := hread milliseconds hms
      cases hset.symm.trans hnumber
      cases hsetMs.symm.trans hduration
      obtain ⟨htoInt, hrange⟩ := positive.toInt_delayMs hsetMs
      refine ⟨_, rfl, hpositive, hdecimal, hrange.1, ?_⟩
      dsimp only
      rw [htoInt]
      exact hdecimalMs

end Given

/-- **The parser and the validator agree**, and the faults are the ones that were asked for. -/
theorem validated_of_parsed {calls : SocketCalls} {fromCharsDouble : FromCharsDouble}
    {arguments : List String} {config : SimulatorConfig}
    (h : parseSimulatorConfig calls fromCharsDouble arguments = .ok config) :
    validateRuntimeConfig calls config = .ok () ∧
      (∀ (environment : Environment) stop passes, environment.calls = calls →
        NotRefused (runSimulator environment config (some stop) passes)) ∧
      GivenDelay (optionPairs arguments) config.faults.delay ∧
      GivenInterval (optionPairs arguments) "--drop-every" config.faults.dropEvery ∧
      GivenInterval (optionPairs arguments) "--duplicate-every" config.faults.duplicateEvery ∧
      GivenInterval (optionPairs arguments) "--reorder-every" config.faults.reorderEvery ∧
      GivenInterval (optionPairs arguments) "--corrupt-every" config.faults.corruptEvery := by
  have haccepted := accepted_of_parsed h
  obtain ⟨options, hloop, hfinish⟩ := bind_eq_ok.mp h
  have hpositive := positive_of_foldPairs hloop
  obtain ⟨_, honce, hvalid, rfl⟩ := loop_eq_ok_iff.mp hloop
  have hgiven {option name : String} (known : (option, name) ∈ intervalOptions) :=
    givenInterval honce hvalid known
  -- the delay is all that the checks behind the loop add to the faults
  obtain ⟨rated, finished⟩ := finished_of_finishOptions hfinish
  have hfaults := finished.faults
  refine ⟨validateRuntimeConfig_iff.mpr haccepted, ?_,
    givenDelay honce hvalid hfinish hpositive, ?_⟩
  · rintro environment stop passes rfl
    exact haccepted.notRefused passes
  · rcases finished.delay with ⟨_, _, rfl⟩ | ⟨every, delayMs, _, _, rfl⟩
    · rw [hfaults]
      exact ⟨hgiven (by decide), hgiven (by decide), hgiven (by decide), hgiven (by decide)⟩
    · rw [hfaults]
      exact ⟨hgiven (by decide), hgiven (by decide), hgiven (by decide), hgiven (by decide)⟩

/-- Two intervals and a delay, in an order of their own. -/
theorem validated_of_parsed_delayed :
    ∃ config, parseSimulatorConfig loopback.calls wholeDouble
        ["--delay-ms", "250", "--drop-every", "7", "--rate-hz", "50", "--delay-every", "3",
          "--sensor", "gnss"] = .ok config ∧
      config.faults = { dropEvery := some 7, delay := some { every := 3, duration := 250 } } ∧
      validateRuntimeConfig loopback.calls config = .ok () := by
  have hparsed : parseSimulatorConfig loopback.calls wholeDouble
      ["--delay-ms", "250", "--drop-every", "7", "--rate-hz", "50", "--delay-every", "3",
        "--sensor", "gnss"] =
      .ok { sensorType := .kGnss
            destination := { address := "127.0.0.1", port := 9000 }
            rateHz := some 50
            faults := { dropEvery := some 7, delay := some { every := 3, duration := 250 } } } := by
    decide +kernel
  exact ⟨_, hparsed, rfl, (validated_of_parsed hparsed).1⟩

end Driveflow.Simulator

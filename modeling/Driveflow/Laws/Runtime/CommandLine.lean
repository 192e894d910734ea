import Mathlib.Data.List.Forall2
import Driveflow.Laws.Runtime.Configuration
import Driveflow.Runtime.RuntimeConfig

/-!
# What the command line accepts

Every configuration that `parse_runtime_config` returns passes the checks that `Runtime`, its
monitor, its pipeline, its receiver and every poll make. `Sets` is what one option with a number
does, `Parsed` what holds after every pair of the loop.
-/

namespace Driveflow.Runtime

open Library Net

/-! ## Numbers and endpoints -/

/-- What is read as a positive integer is the decimal text of a number other than zero. -/
theorem parsePositiveInteger_eq_some {text : List Char} {number : BitVec 64}
    (h : parsePositiveInteger text = some number) : IsDecimal text number.toNat ∧ number ≠ 0 := by
  unfold parsePositiveInteger at h
  cases hread : fromChars 64 text with
  | none =>
    rw [hread] at h
    exact nomatch h
  | some read =>
    obtain ⟨value, rest⟩ := read
    rw [hread] at h
    dsimp only at h
    split at h
    · exact nomatch h
    next hvalid =>
      cases h
      obtain ⟨_, hrest⟩ := not_or.mp hvalid
      obtain ⟨hend, hpositive⟩ := not_or.mp hrest
      rw [not_not.mp hend] at hread
      exact ⟨isDecimal_of_fromChars hread, hpositive⟩

/-- **The conversion to nanoseconds is exact**, and refused where it would overflow. -/
theorem parseMilliseconds_eq (value : BitVec 64) :
    parseMilliseconds value = if value.toNat * 1000000 < 2 ^ 63 then
      some (BitVec.ofNat 64 (value.toNat * 1000000)) else none := by
  have hquotient : (kMaxNanoseconds / kNanosecondsPerMillisecond).toNat = 9223372036854 := by
    decide
  unfold parseMilliseconds
  by_cases hlarge : value > kMaxNanoseconds / kNanosecondsPerMillisecond
  · have hlt := BitVec.lt_def.mp hlarge
    rw [hquotient] at hlt
    rw [if_pos hlarge, if_neg (by omega)]
  · have hle := Nat.le_of_not_lt fun hlt => hlarge (BitVec.lt_def.mpr hlt)
    rw [hquotient] at hle
    rw [if_neg hlarge, if_pos (by omega)]
    refine congrArg some (BitVec.eq_of_toNat_eq ?_)
    rw [BitVec.toNat_mul, BitVec.toNat_ofNat]
    rfl

/-- Milliseconds are read as nanoseconds, and only where these fit a signed 64-bit count. -/
theorem toInt_parseMilliseconds {value duration : BitVec 64}
    (h : parseMilliseconds value = some duration) :
    value.toNat * 1000000 < 2 ^ 63 ∧ duration.toInt = value.toNat * 1000000 := by
  rw [parseMilliseconds_eq] at h
  split at h
  next hfits =>
    cases h
    have htoNat : (BitVec.ofNat 64 (value.toNat * 1000000)).toNat = value.toNat * 1000000 := by
      rw [BitVec.toNat_ofNat, Nat.mod_eq_of_lt (by omega)]
    refine ⟨hfits, ?_⟩
    rw [BitVec.toInt_eq_toNat_of_lt (by rw [htoNat]; omega), htoNat]
    exact Int.natCast_mul _ _
  · exact nomatch h

/-- The endpoint is the one the value of `--listen` gives. -/
structure GivenEndpoint (calls : SocketCalls) (value : String) (endpoint : Ipv4Endpoint) :
    Prop where
  text : ∃ portText, value.toList = endpoint.address.toList ++ ':' :: portText ∧
    IsDecimal portText endpoint.port.toNat
  port : 1 ≤ endpoint.port.toNat ∧ endpoint.port.toNat ≤ 65535
  address : (calls.inetPton endpoint.address).isSome

/-- An endpoint that is read is the one its text gives. -/
theorem givenEndpoint_of_parse {calls : SocketCalls} {value : String} {endpoint : Ipv4Endpoint}
    (h : parseEndpoint calls value.toList = some endpoint) :
    GivenEndpoint calls value endpoint := by
  unfold parseEndpoint at h
  cases hseparator : rfind value.toList ':' with
  | none =>
    rw [hseparator] at h
    exact nomatch h
  | some separator =>
    rw [hseparator] at h
    dsimp only at h
    split at h
    · exact nomatch h
    · cases hport : parsePositiveInteger (value.toList.drop (separator + 1)) with
      | none =>
        rw [hport] at h
        exact nomatch h
      | some port =>
        rw [hport] at h
        dsimp only at h
        obtain ⟨hdecimal, hpositive⟩ := parsePositiveInteger_eq_some hport
        split at h
        · exact nomatch h
        next hfits =>
          have hle : port.toNat ≤ 65535 :=
            Nat.le_of_not_lt fun hlt => hfits (BitVec.lt_def.mpr hlt)
          have hnonzero : port.toNat ≠ 0 := fun hzero => hpositive (BitVec.eq_of_toNat_eq hzero)
          have hsame : (port.setWidth 16).toNat = port.toNat := by
            rw [BitVec.toNat_setWidth, Nat.mod_eq_of_lt (Nat.lt_succ_of_le hle)]
          cases haddress : calls.inetPton (String.ofList (value.toList.take separator)) with
          | none =>
            rw [haddress] at h
            exact nomatch h
          | some address =>
            rw [haddress] at h
            cases h
            refine ⟨⟨_, ?_, hsame.symm ▸ hdecimal⟩, ?_, Option.isSome_of_eq_some haddress⟩
            · rw [String.toList_ofList]
              exact exists_of_rfind hseparator
            · rw [hsame]
              exact ⟨Nat.one_le_iff_ne_zero.mpr hnonzero, hle⟩

/-! ## One option -/

/-- What a singleton option does to the configuration. -/
inductive Sets (config : RuntimeConfig) (number : BitVec 64) : String → RuntimeConfig → Prop where
  | count : Sets config number "--count" { config with packetCount := some number }
  | pollTimeout : number.toNat ≤ kMaxInt → Sets config number "--poll-timeout-ms"
    { config with pollTimeout := (number.setWidth 32).signExtend 64 }
  | maxDrain : Sets config number "--max-drain"
    { config with
      receiver := { config.receiver with maxDatagramsPerListenerPerPoll := number.toNat } }
  | maxSources : Sets config number "--max-sources"
    { config with health := { config.health with maxSources := number.toNat } }
  | degraded {duration : BitVec 64} : parseMilliseconds number = some duration →
    Sets config number "--health-degraded-ms"
      { config with health := { config.health with degradedAfter := duration } }
  | offline {duration : BitVec 64} : parseMilliseconds number = some duration →
    Sets config number "--health-offline-ms"
      { config with health := { config.health with offlineAfter := duration } }
  | recovery {duration : BitVec 64} : parseMilliseconds number = some duration →
    Sets config number "--health-recovery-ms"
      { config with health := { config.health with recoveryAfter := duration } }
  | workers : Sets config number "--workers"
    { config with pipeline := { config.pipeline with workerCount := number.toNat } }
  | queueCapacity : Sets config number "--queue-capacity"
    { config with pipeline := { config.pipeline with queueCapacity := number.toNat } }

/-- The three health durations are set as the other options are. -/
theorem sets_of_setHealthDuration {config next : RuntimeConfig} {option : String}
    {number : BitVec 64} (known : option = "--health-degraded-ms" ∨
      option = "--health-offline-ms" ∨ option = "--health-recovery-ms")
    (h : setHealthDuration config option number = .ok next) : Sets config number option next := by
  unfold setHealthDuration at h
  cases hduration : parseMilliseconds number with
  | none =>
    rw [hduration] at h
    exact nomatch h
  | some duration =>
    rw [hduration] at h
    dsimp only at h
    rcases known with rfl | rfl | rfl
    · rw [if_pos rfl] at h
      exact Except.ok.inj h ▸ .degraded hduration
    · rw [if_neg (by decide), if_pos rfl] at h
      exact Except.ok.inj h ▸ .offline hduration
    · rw [if_neg (by decide), if_neg (by decide)] at h
      exact Except.ok.inj h ▸ .recovery hduration

/-- The inversion of `setNumber`. -/
theorem sets_of_setNumber {config next : RuntimeConfig} {option : String} {number : BitVec 64}
    (h : setNumber config option number = .ok next) : Sets config number option next := by
  -- no 64-bit number is too large for a `std::size_t`
  have hsize : ¬ number.toNat > kMaxSize := Nat.not_lt.mpr (Nat.le_of_lt_succ number.isLt)
  unfold setNumber at h
  rw [if_neg hsize, if_neg hsize, if_neg hsize, if_neg hsize] at h
  by_cases hcount : option = "--count"
  · rw [if_pos hcount] at h
    exact hcount ▸ Except.ok.inj h ▸ .count
  rw [if_neg hcount] at h
  by_cases htimeout : option = "--poll-timeout-ms"
  · rw [if_pos htimeout] at h
    by_cases hlong : number.toNat > kMaxInt
    · rw [if_pos hlong] at h
      exact nomatch h
    · rw [if_neg hlong] at h
      exact htimeout ▸ Except.ok.inj h ▸ .pollTimeout (Nat.le_of_not_lt hlong)
  rw [if_neg htimeout] at h
  by_cases hdrain : option = "--max-drain"
  · rw [if_pos hdrain] at h
    exact hdrain ▸ Except.ok.inj h ▸ .maxDrain
  rw [if_neg hdrain] at h
  by_cases hsources : option = "--max-sources"
  · rw [if_pos hsources] at h
    exact hsources ▸ Except.ok.inj h ▸ .maxSources
  rw [if_neg hsources] at h
  by_cases hduration : option = "--health-degraded-ms" ∨ option = "--health-offline-ms" ∨
    option = "--health-recovery-ms"
  · rw [if_pos hduration] at h
    exact sets_of_setHealthDuration hduration h
  rw [if_neg hduration] at h
  by_cases hworkers : option = "--workers"
  · rw [if_pos hworkers] at h
    exact hworkers ▸ Except.ok.inj h ▸ .workers
  rw [if_neg hworkers] at h
  by_cases hcapacity : option = "--queue-capacity"
  · rw [if_pos hcapacity] at h
    exact hcapacity ▸ Except.ok.inj h ▸ .queueCapacity
  rw [if_neg hcapacity] at h
  exact nomatch h

/-- The converse of `sets_of_setNumber`. -/
theorem Sets.setNumber_eq {config next : RuntimeConfig} {option : String} {number : BitVec 64}
    (h : Sets config number option next) : setNumber config option number = .ok next := by
  have hsize : ¬ number.toNat > kMaxSize := Nat.not_lt.mpr (Nat.le_of_lt_succ number.isLt)
  cases h with
  | count => rfl
  | pollTimeout hfits => simp [setNumber, Nat.not_lt.mpr hfits]
  | maxDrain => simp [setNumber, hsize]
  | maxSources => simp [setNumber, hsize]
  | degraded hduration => simp [setNumber, setHealthDuration, hduration]
  | offline hduration => simp [setNumber, setHealthDuration, hduration]
  | recovery hduration => simp [setNumber, setHealthDuration, hduration]
  | workers => simp [setNumber, hsize]
  | queueCapacity => simp [setNumber, hsize]

/-- What every part of a configuration is checked for, but the order of the two timeouts. -/
structure Positive (config : RuntimeConfig) : Prop where
  count : config.packetCount ≠ some 0
  timeout : 0 < config.pollTimeout.toInt ∧ config.pollTimeout.toInt ≤ kMaxInt
  drain : config.receiver.maxDatagramsPerListenerPerPoll ≠ 0
  sources : config.health.maxSources ≠ 0
  packets : config.health.healthyAfterPackets ≠ 0
  degraded : 0 < config.health.degradedAfter.toInt
  recovery : 0 < config.health.recoveryAfter.toInt
  workers : config.pipeline.workerCount ≠ 0
  capacity : config.pipeline.queueCapacity ≠ 0

/-- The defaults are positive. -/
theorem positive_default : Positive {} := by
  constructor <;> decide

theorem toNat_ne_zero {number : BitVec 64} (positive : number ≠ 0) : number.toNat ≠ 0 :=
  fun hzero => positive (BitVec.eq_of_toNat_eq hzero)

/-- A poll timeout that fits an `int` keeps its value through the casts. -/
theorem toInt_pollTimeout {number : BitVec 64} (fits : number.toNat ≤ kMaxInt) :
    ((number.setWidth 32).signExtend 64).toInt = number.toNat := by
  have hfits : number.toNat ≤ 2147483647 := fits
  have htoNat : (number.setWidth 32).toNat = number.toNat := by
    rw [BitVec.toNat_setWidth, Nat.mod_eq_of_lt (by omega)]
  rw [BitVec.toInt_signExtend_of_le (by decide), BitVec.toInt_eq_toNat_of_lt (by omega), htoNat]

/-- A positive number of milliseconds is a positive duration. -/
theorem positive_parseMilliseconds {number duration : BitVec 64} (positive : number ≠ 0)
    (h : parseMilliseconds number = some duration) : 0 < duration.toInt := by
  have hpositive := Nat.pos_of_ne_zero (toNat_ne_zero positive)
  rw [(toInt_parseMilliseconds h).2]
  omega

/-- A positive number of any option leaves the configuration positive. -/
theorem Positive.sets {config next : RuntimeConfig} {option : String} {number : BitVec 64}
    (valid : Positive config) (positive : number ≠ 0) (h : Sets config number option next) :
    Positive next := by
  cases h with
  | count => exact { valid with count := fun hzero => positive (Option.some.inj hzero) }
  | pollTimeout fits =>
    have hpositive := Nat.pos_of_ne_zero (toNat_ne_zero positive)
    refine { valid with timeout := ?_ }
    rw [toInt_pollTimeout fits]
    exact ⟨Int.natCast_pos.mpr hpositive, Int.ofNat_le.mpr fits⟩
  | maxDrain => exact { valid with drain := toNat_ne_zero positive }
  | maxSources => exact { valid with sources := toNat_ne_zero positive }
  | degraded hduration =>
    exact { valid with degraded := positive_parseMilliseconds positive hduration }
  | offline => exact { valid with }
  | recovery hduration =>
    exact { valid with recovery := positive_parseMilliseconds positive hduration }
  | workers => exact { valid with workers := toNat_ne_zero positive }
  | queueCapacity => exact { valid with capacity := toNat_ne_zero positive }

/-- No option with a number touches the listeners. -/
theorem Sets.listenEndpoints {config next : RuntimeConfig} {option : String} {number : BitVec 64}
    (h : Sets config number option next) :
    next.receiver.listenEndpoints = config.receiver.listenEndpoints := by
  cases h <;> rfl

/-- The options that set a health duration. -/
def healthOptions : List String :=
  ["--health-degraded-ms", "--health-offline-ms", "--health-recovery-ms"]

/-- The duration such an option sets. -/
def healthDuration (config : RuntimeConfig) (option : String) : BitVec 64 :=
  if option = "--health-degraded-ms" then config.health.degradedAfter
  else if option = "--health-offline-ms" then config.health.offlineAfter
  else config.health.recoveryAfter

/-- Each health option sets its own duration, and no option sets another's. -/
theorem Sets.healthDuration {config next : RuntimeConfig} {option : String} {number : BitVec 64}
    (h : Sets config number option next) {health : String} (known : health ∈ healthOptions) :
    if health = option then parseMilliseconds number = some (healthDuration next health)
    else Runtime.healthDuration next health = Runtime.healthDuration config health := by
  rcases List.mem_cons.mp known with rfl | known
  · cases h <;> first | rfl | assumption
  · rcases List.mem_cons.mp known with rfl | known
    · cases h <;> first | rfl | assumption
    · rw [List.mem_singleton.mp known]
      cases h <;> first | rfl | assumption

/-! ## The loop -/

/-- `--listen` is taken exactly with an endpoint, which becomes the last listener. -/
theorem parseOption_listen {calls : SocketCalls} {options next : RuntimeOptions} {value : String} :
    parseOption calls options "--listen" value = .ok next ↔
      ∃ endpoint, parseEndpoint calls value.toList = some endpoint ∧
        next = { options with
          config := { options.config with
            receiver := { options.config.receiver with
              listenEndpoints := (if options.hasExplicitListener then
                options.config.receiver.listenEndpoints else []) ++ [endpoint] } }
          hasExplicitListener := true } := by
  rw [parseOption, if_pos rfl]
  cases parseEndpoint calls value.toList with
  | none => simp
  | some endpoint =>
    constructor
    · intro h
      exact ⟨endpoint, rfl, (Except.ok.inj h).symm⟩
    · rintro ⟨_, hendpoint, rfl⟩
      cases hendpoint
      rfl

/-- Any other option is taken exactly once, with a positive number that it sets. -/
theorem parseOption_single {calls : SocketCalls} {options next : RuntimeOptions}
    {option value : String} (single : option ≠ "--listen") :
    parseOption calls options option value = .ok next ↔
      option ∉ options.seenSingletonOptions ∧
      ∃ number config, parsePositiveInteger value.toList = some number ∧
        Sets options.config number option config ∧
        next = { options with
          config, seenSingletonOptions := option :: options.seenSingletonOptions } := by
  rw [parseOption, if_neg single]
  by_cases hseen : option ∈ options.seenSingletonOptions
  · rw [if_pos hseen]
    simp [hseen]
  · rw [if_neg hseen]
    cases parsePositiveInteger value.toList with
    | none => simp
    | some number =>
      refine Iff.trans bind_eq_ok ⟨?_, ?_⟩
      · rintro ⟨config, hset, hnext⟩
        exact ⟨hseen, number, config, rfl, sets_of_setNumber hset, (Except.ok.inj hnext).symm⟩
      · rintro ⟨_, _, config, hnumber, hset, rfl⟩
        cases hnumber
        exact ⟨config, hset.setNumber_eq, rfl⟩

/-- The values of `--listen`, in order. -/
def listenValues (pairs : List (String × String)) : List String :=
  pairs.filterMap fun pair => if pair.1 = "--listen" then some pair.2 else none

/-- The duration is the given number of milliseconds, if the option was given. -/
def GivenDuration (pairs : List (String × String)) (option : String) (duration : BitVec 64) :
    Prop :=
  ∀ value, (option, value) ∈ pairs →
    ∃ milliseconds : Nat, IsDecimal value.toList milliseconds ∧
      duration.toInt = milliseconds * 1000000

/-- **The invariant of the loop**, over the pairs read so far. -/
structure Parsed (calls : SocketCalls) (pairs : List (String × String))
    (options : RuntimeOptions) : Prop where
  positive : Positive options.config
  listen : if options.hasExplicitListener then
      listenValues pairs ≠ [] ∧ List.Forall₂ (GivenEndpoint calls) (listenValues pairs)
        options.config.receiver.listenEndpoints
    else listenValues pairs = [] ∧ options.config.receiver.listenEndpoints.length = 1
  seen : ∀ pair ∈ pairs, pair.1 ≠ "--listen" → pair.1 ∈ options.seenSingletonOptions
  durations : ∀ health ∈ healthOptions,
    GivenDuration pairs health (healthDuration options.config health)

/-- No pairs leave the defaults. -/
theorem parsed_start (calls : SocketCalls) : Parsed calls [] {} where
  positive := positive_default
  listen := ⟨rfl, rfl⟩
  seen _ h := nomatch h
  durations _ _ _ h := nomatch h

/-- A pair adds a listener text exactly if its option is `--listen`. -/
theorem listenValues_append (pairs : List (String × String)) (option value : String) :
    listenValues (pairs ++ [(option, value)]) =
      listenValues pairs ++ if option = "--listen" then [value] else [] := by
  rw [listenValues, List.filterMap_append, List.filterMap_cons, List.filterMap_nil]
  split
  next hother =>
    split at hother
    · exact nomatch hother
    next hne => rw [if_neg hne]; rfl
  next listened hlisten =>
    split at hlisten
    next heq =>
      cases hlisten
      rw [if_pos heq]
      rfl
    · exact nomatch hlisten

/-- Reading a listener keeps what is known of the options read so far. -/
theorem Parsed.listened {calls : SocketCalls} {pairs : List (String × String)}
    {options : RuntimeOptions} (parsed : Parsed calls pairs options) {value : String}
    {endpoint : Ipv4Endpoint} (given : GivenEndpoint calls value endpoint) :
    Parsed calls (pairs ++ [("--listen", value)])
      { options with
        config := { options.config with
          receiver := { options.config.receiver with
            listenEndpoints := (if options.hasExplicitListener then
              options.config.receiver.listenEndpoints else []) ++ [endpoint] } }
        hasExplicitListener := true } where
  positive := { parsed.positive with }
  listen := by
    have hlisten := parsed.listen
    rw [listenValues_append, if_pos rfl, if_pos rfl]
    refine ⟨List.append_ne_nil_of_right_ne_nil _ (List.cons_ne_nil _ _), ?_⟩
    refine List.rel_append ?_ (.cons given .nil)
    split
    next hexplicit =>
      rw [if_pos hexplicit] at hlisten
      exact hlisten.2
    next hdefault =>
      rw [if_neg hdefault] at hlisten
      rw [hlisten.1]
      exact .nil
  seen pair hpair hother := by
    rcases List.mem_append.mp hpair with hpair | hpair
    · exact parsed.seen pair hpair hother
    · rw [List.mem_singleton.mp hpair] at hother
      exact absurd rfl hother
  durations health hhealth value hvalue := by
    rcases List.mem_append.mp hvalue with hvalue | hvalue
    · exact parsed.durations health hhealth value hvalue
    · cases List.mem_singleton.mp hvalue
      exact absurd hhealth (by decide)

/-- Reading any other option keeps what is known of the options read so far. -/
theorem Parsed.sets {calls : SocketCalls} {pairs : List (String × String)}
    {options : RuntimeOptions} (parsed : Parsed calls pairs options) {option value : String}
    (single : option ≠ "--listen") (fresh : option ∉ options.seenSingletonOptions)
    {number : BitVec 64} (hnumber : parsePositiveInteger value.toList = some number)
    {config : RuntimeConfig} (h : Sets options.config number option config) :
    Parsed calls (pairs ++ [(option, value)])
      { options with
        config, seenSingletonOptions := option :: options.seenSingletonOptions } where
  positive := parsed.positive.sets (parsePositiveInteger_eq_some hnumber).2 h
  listen := by
    have hlisten := parsed.listen
    rw [listenValues_append, if_neg single, List.append_nil]
    dsimp only
    rwa [h.listenEndpoints]
  seen pair hpair hother := by
    rcases List.mem_append.mp hpair with hpair | hpair
    · exact List.mem_cons_of_mem _ (parsed.seen pair hpair hother)
    · rw [List.mem_singleton.mp hpair]
      exact List.mem_cons_self
  durations health hhealth given hgiven := by
    have hset := h.healthDuration hhealth
    rcases List.mem_append.mp hgiven with hgiven | hgiven
    · -- a singleton option that was given before is refused
      have hlisten : health ≠ "--listen" := fun heq => absurd (heq ▸ hhealth) (by decide)
      have hne : health ≠ option := fun heq => fresh (heq ▸ parsed.seen _ hgiven hlisten)
      rw [if_neg hne] at hset
      rw [hset]
      exact parsed.durations health hhealth given hgiven
    · cases List.mem_singleton.mp hgiven
      rw [if_pos rfl] at hset
      exact ⟨number.toNat, (parsePositiveInteger_eq_some hnumber).1,
        (toInt_parseMilliseconds hset).2⟩

/-- The step of the loop. -/
theorem Parsed.parseOption {calls : SocketCalls} {pairs : List (String × String)}
    {options next : RuntimeOptions} {option value : String}
    (parsed : Parsed calls pairs options)
    (h : Runtime.parseOption calls options option value = .ok next) :
    Parsed calls (pairs ++ [(option, value)]) next := by
  by_cases hlisten : option = "--listen"
  · subst hlisten
    obtain ⟨endpoint, hendpoint, rfl⟩ := parseOption_listen.mp h
    exact parsed.listened (givenEndpoint_of_parse hendpoint)
  · obtain ⟨hfresh, number, config, hnumber, hset, rfl⟩ := (parseOption_single hlisten).mp h
    exact parsed.sets hlisten hfresh hnumber hset

/-! ## The theorem -/

/-- A configuration that is parsed is described by its pairs, and its thresholds are in order. -/
theorem parseRuntimeConfig_eq_ok {calls : SocketCalls} {arguments : List String}
    {config : RuntimeConfig} (h : parseRuntimeConfig calls arguments = .ok config) :
    ∃ options, Parsed calls (optionPairs arguments) options ∧ options.config = config ∧
      config.health.degradedAfter.toInt < config.health.offlineAfter.toInt := by
  obtain ⟨options, hloop, hend⟩ := bind_eq_ok.mp h
  split at hend
  · exact nomatch hend
  next hoffline =>
    cases hend
    refine ⟨options, ?_, rfl, Int.not_le.mp hoffline⟩
    exact foldPairs_invariant hloop (Parsed calls) (parsed_start calls)
      fun _ _ _ _ _ parsed hstep => parsed.parseOption hstep

/-- Everything that is to run accepts the configuration, and it is the one that was given. -/
structure Runnable (calls : SocketCalls) (arguments : List String) (config : RuntimeConfig) :
    Prop where
  runtime : Run.validateConfig config = .ok config
  /-- The receiver refuses the configuration for the number of its endpoints alone. -/
  receiver : ∀ fileDescriptor,
    EpollReceiver.createEpoll config.receiver (some fileDescriptor) = .ok fileDescriptor ↔
      config.receiver.listenEndpoints.length ≤ kMaxInt
  pipeline : WorkerPipeline.validateConfig config.pipeline = .ok config.pipeline
  health : SourceHealthMonitor.validateConfig config.health = .ok config.health
  poll : ∀ (receiver : EpollReceiver) (calls : SocketCalls) epollWait what,
    receiver.poll config.pollTimeout calls epollWait ≠ .error (.invalidArgument what)
  endpoints : config.receiver.listenEndpoints ≠ []
  listen : listenValues (optionPairs arguments) ≠ [] →
    List.Forall₂ (GivenEndpoint calls) (listenValues (optionPairs arguments))
      config.receiver.listenEndpoints
  /-- There are no more endpoints than pairs of arguments, the default one apart. -/
  few : config.receiver.listenEndpoints.length ≤ max 1 (arguments.length / 2)
  degraded : GivenDuration (optionPairs arguments) "--health-degraded-ms"
    config.health.degradedAfter
  offline : GivenDuration (optionPairs arguments) "--health-offline-ms" config.health.offlineAfter
  recovery : GivenDuration (optionPairs arguments) "--health-recovery-ms"
    config.health.recoveryAfter

/-- The receiver is created exactly if the number of its listeners fits an `int`. -/
theorem Positive.receiver {config : RuntimeConfig} (valid : Positive config)
    (endpoints : config.receiver.listenEndpoints ≠ []) (fileDescriptor : Nat) :
    EpollReceiver.createEpoll config.receiver (some fileDescriptor) = .ok fileDescriptor ↔
      config.receiver.listenEndpoints.length ≤ kMaxInt := by
  unfold EpollReceiver.createEpoll
  rw [if_neg endpoints, if_neg valid.drain]
  constructor
  · intro h
    split at h
    · exact nomatch h
    next hfits => exact Nat.le_of_not_lt hfits
  · intro hfits
    rw [if_neg (Nat.not_lt.mpr hfits)]

/-- The runtime accepts what is positive and in order. -/
theorem Positive.runtime {config : RuntimeConfig} (valid : Positive config)
    (order : config.health.degradedAfter.toInt < config.health.offlineAfter.toInt) :
    Run.validateConfig config = .ok config := by
  have hdurations : ¬ (config.health.healthyAfterPackets = 0 ∨
      config.health.degradedAfter.toInt ≤ 0 ∨ config.health.recoveryAfter.toInt ≤ 0) :=
    not_or.mpr ⟨valid.packets, not_or.mpr
      ⟨Int.not_le.mpr valid.degraded, Int.not_le.mpr valid.recovery⟩⟩
  rw [Run.validateConfig, if_neg valid.count, if_neg (Int.not_le.mpr valid.timeout.1),
    if_neg valid.workers, if_neg valid.capacity, if_neg valid.sources, if_neg hdurations,
    if_neg (Int.not_le.mpr order)]

/-- The pipeline accepts what is positive. -/
theorem Positive.pipeline {config : RuntimeConfig} (valid : Positive config) :
    WorkerPipeline.validateConfig config.pipeline = .ok config.pipeline := by
  rw [WorkerPipeline.validateConfig, if_neg valid.workers, if_neg valid.capacity]

/-- The health monitor accepts what is positive and in order. -/
theorem Positive.health {config : RuntimeConfig} (valid : Positive config)
    (order : config.health.degradedAfter.toInt < config.health.offlineAfter.toInt) :
    SourceHealthMonitor.validateConfig config.health = .ok config.health := by
  rw [SourceHealthMonitor.validateConfig, if_neg valid.sources, if_neg valid.packets,
    if_neg (Int.not_le.mpr valid.degraded), if_neg (Int.not_le.mpr order),
    if_neg (Int.not_le.mpr valid.recovery)]

/-- No poll with the configured timeout refuses its arguments. -/
theorem Positive.poll {config : RuntimeConfig} (valid : Positive config)
    (receiver : EpollReceiver) (calls : SocketCalls)
    (epollWait : BitVec 32 → EpollReceiver.EpollWait) (what : String) :
    receiver.poll config.pollTimeout calls epollWait ≠ .error (.invalidArgument what) := by
  intro h
  rcases (receiver.poll_refuses_iff config.pollTimeout calls epollWait).mp ⟨what, h⟩ with
    hnegative | hlarge
  · exact Int.lt_irrefl _ (Int.lt_trans hnegative valid.timeout.1)
  · exact absurd valid.timeout.2 (Int.not_le.mpr hlarge)

/-- Two arguments make one pair. -/
theorem length_optionPairs (arguments : List String) :
    (optionPairs arguments).length = arguments.length / 2 := by
  induction arguments using optionPairs.induct with
  | case1 => rfl
  | case2 => exact (Nat.div_eq_of_lt Nat.one_lt_two).symm
  | case3 option value rest ih =>
    rw [optionPairs, List.length_cons, ih, List.length_cons, List.length_cons]
    exact (Nat.add_div_right _ Nat.two_pos).symm

/-- **Whatever the command line accepts, the runtime can run.** The one check that a parsed
configuration may fail is the receiver's on the number of its endpoints, which an `int` holds for
every argument list of fewer than 2³² texts. -/
theorem runnable_of_parsed {calls : SocketCalls} {arguments : List String}
    {config : RuntimeConfig} (h : parseRuntimeConfig calls arguments = .ok config) :
    Runnable calls arguments config ∧
      ∀ milliseconds duration : BitVec 64, parseMilliseconds milliseconds = some duration →
        milliseconds.toNat * 1000000 < 2 ^ 63 ∧
          duration.toInt = milliseconds.toNat * 1000000 := by
  obtain ⟨options, hparsed, rfl, horder⟩ := parseRuntimeConfig_eq_ok h
  have hvalid := hparsed.positive
  have hlisten := hparsed.listen
  have hendpoints : options.config.receiver.listenEndpoints ≠ [] := by
    intro hnone
    rw [hnone] at hlisten
    split at hlisten
    · exact hlisten.1 (List.forall₂_nil_right_iff.mp hlisten.2)
    · exact nomatch hlisten.2
  refine ⟨⟨hvalid.runtime horder, hvalid.receiver hendpoints, hvalid.pipeline,
    hvalid.health horder, hvalid.poll, hendpoints, fun hgiven => ?_, ?_,
    hparsed.durations _ (by decide), hparsed.durations _ (by decide),
    hparsed.durations _ (by decide)⟩, fun _ _ => toInt_parseMilliseconds⟩
  · split at hlisten
    · exact hlisten.2
    · exact absurd hlisten.1 hgiven
  · split at hlisten
    · rw [← hlisten.2.length_eq, ← length_optionPairs]
      exact (List.length_filterMap_le _ _).trans (Nat.le_max_right _ _)
    · rw [hlisten.2]
      exact Nat.le_max_left _ _

/-- A machine whose only address is its loopback. -/
def loopbackCalls : SocketCalls where
  inetPton := fun text => if text = "127.0.0.1" then some 0x7f000001#32 else none
  inetNtop := fun _ => some "127.0.0.1"
  sendto := fun bytes _ => some bytes.length

/-- Two listeners, a number of milliseconds, and a number that is none. -/
theorem runnable_of_parsed_twoListeners :
    ∃ config, parseRuntimeConfig loopbackCalls ["--listen", "127.0.0.1:9001",
        "--health-degraded-ms", "250", "--listen", "127.0.0.1:9002"] = .ok config ∧
      config.health.degradedAfter = 250000000 ∧
      config.receiver.listenEndpoints = [{ address := "127.0.0.1", port := 9001 },
        { address := "127.0.0.1", port := 9002 }] ∧
      Runnable loopbackCalls ["--listen", "127.0.0.1:9001", "--health-degraded-ms", "250",
        "--listen", "127.0.0.1:9002"] config := by
  have hparsed : parseRuntimeConfig loopbackCalls ["--listen", "127.0.0.1:9001",
      "--health-degraded-ms", "250", "--listen", "127.0.0.1:9002"] =
      .ok { receiver := { listenEndpoints := [{ address := "127.0.0.1", port := 9001 },
              { address := "127.0.0.1", port := 9002 }] }
            health := { degradedAfter := 250000000 } } := by decide +kernel
  exact ⟨_, hparsed, rfl, rfl, (runnable_of_parsed hparsed).1⟩

/-! ## Too many listeners -/

/-- One listener, again and again. -/
theorem foldPairs_listen {calls : SocketCalls} {value : String} {endpoint : Ipv4Endpoint}
    (given : parseEndpoint calls value.toList = some endpoint) (n : Nat) {options : RuntimeOptions}
    (explicit : options.hasExplicitListener = true) :
    ∃ final, foldPairs (fun option => "missing value for " ++ option) (parseOption calls) options
        (List.replicate n ["--listen", value]).flatten = .ok final ∧
      final.config.health = options.config.health ∧
      final.config.receiver.listenEndpoints.length =
        options.config.receiver.listenEndpoints.length + n := by
  induction n generalizing options with
  | zero => exact ⟨options, rfl, rfl, rfl⟩
  | succ n ih =>
    obtain ⟨next, hnext⟩ : ∃ next, next = { options with
        config := { options.config with
          receiver := { options.config.receiver with
            listenEndpoints := options.config.receiver.listenEndpoints ++ [endpoint] } }
        hasExplicitListener := true } := ⟨_, rfl⟩
    have hstep : parseOption calls options "--listen" value = .ok next := by
      rw [hnext, parseOption, if_pos rfl, given, explicit, if_pos rfl]
    have hexplicit : next.hasExplicitListener = true := hnext ▸ rfl
    obtain ⟨final, hrest, hhealth, hlength⟩ := ih hexplicit
    refine ⟨final, ?_, ?_, ?_⟩
    · rw [List.replicate_succ, List.flatten_cons]
      exact foldPairs_cons_eq_ok.mpr ⟨next, hstep, hrest⟩
    · rw [hhealth, hnext]
    · rw [hlength, hnext]
      dsimp only
      rw [List.length_append, List.length_singleton]
      exact Nat.add_right_comm _ _ _

/-- Any number of listeners is parsed. -/
theorem parse_manyListeners (n : Nat) :
    ∃ config, parseRuntimeConfig loopbackCalls
        (List.replicate (n + 1) ["--listen", "127.0.0.1:9000"]).flatten = .ok config ∧
      config.receiver.listenEndpoints.length = n + 1 := by
  have hgiven : parseEndpoint loopbackCalls "127.0.0.1:9000".toList =
      some { address := "127.0.0.1", port := 9000 } := by decide +kernel
  obtain ⟨final, hrest, hhealth, hlength⟩ := @foldPairs_listen loopbackCalls _ _ hgiven n
    { config := { receiver := { listenEndpoints := [{ address := "127.0.0.1", port := 9000 }] } }
      hasExplicitListener := true } rfl
  have hfirst : parseOption loopbackCalls {} "--listen" "127.0.0.1:9000" =
      .ok { config := { receiver := { listenEndpoints :=
              [{ address := "127.0.0.1", port := 9000 }] } }
            hasExplicitListener := true } := by
    rw [parseOption, if_pos rfl, hgiven]
    rfl
  refine ⟨final.config, bind_eq_ok.mpr ⟨final, ?_, ?_⟩, hlength.trans (Nat.add_comm _ _)⟩
  · rw [List.replicate_succ, List.flatten_cons]
    exact foldPairs_cons_eq_ok.mpr ⟨_, hfirst, hrest⟩
  · rw [hhealth]
    rfl

/-- 2³¹ listeners: the command line accepts them, and the receiver does not. -/
theorem manyListeners_refused :
    ∃ config, parseRuntimeConfig loopbackCalls
        (List.replicate (kMaxInt + 1) ["--listen", "127.0.0.1:9000"]).flatten = .ok config ∧
      ∀ fileDescriptor, EpollReceiver.createEpoll config.receiver (some fileDescriptor) ≠
        .ok fileDescriptor := by
  obtain ⟨config, hparsed, hlength⟩ := parse_manyListeners kMaxInt
  refine ⟨config, hparsed, fun fileDescriptor hmade => ?_⟩
  obtain ⟨options, hvalid, rfl, _⟩ := parseRuntimeConfig_eq_ok hparsed
  have hsome : options.config.receiver.listenEndpoints ≠ [] := by
    intro hnone
    rw [hnone] at hlength
    exact absurd hlength (Nat.zero_ne_add_one _)
  have hfew := (hvalid.positive.receiver hsome fileDescriptor).mp hmade
  rw [hlength] at hfew
  exact absurd hfew (Nat.not_succ_le_self _)

end Driveflow.Runtime

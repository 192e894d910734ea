import Driveflow.Laws.Runtime.CommandLine

/-!
# What the runtime's options give

The loop of `parse_runtime_config` keeps the number of each singleton option and the endpoints of
`--listen` in their order: its state is read off the pairs (`described`), and it fails only for a
bad value and for a second one of a singleton option (`describedBy_parseOption`).
-/

namespace Driveflow.Runtime

open Library Net

/-! ## The options on their own -/

/-- Whether a number is good does not depend on the other options. -/
theorem Sets.anywhere {config next : RuntimeConfig} {option : String} {number : BitVec 64}
    (h : Sets config number option next) (other : RuntimeConfig) :
    ∃ set, Sets other number option set := by
  cases h with
  | count => exact ⟨_, .count⟩
  | pollTimeout hfits => exact ⟨_, .pollTimeout hfits⟩
  | maxDrain => exact ⟨_, .maxDrain⟩
  | maxSources => exact ⟨_, .maxSources⟩
  | degraded hduration => exact ⟨_, .degraded hduration⟩
  | offline hduration => exact ⟨_, .offline hduration⟩
  | recovery hduration => exact ⟨_, .recovery hduration⟩
  | workers => exact ⟨_, .workers⟩
  | queueCapacity => exact ⟨_, .queueCapacity⟩

/-- The option is known and its value can be read. -/
def ValidOption (calls : SocketCalls) (option value : String) : Prop :=
  if option = "--listen" then ∃ endpoint, parseEndpoint calls value.toList = some endpoint
  else ∃ number config, parsePositiveInteger value.toList = some number ∧
    Sets {} number option config

/-! ## The state that the pairs describe -/

def readNumber (value : String) : Option (BitVec 64) := parsePositiveInteger value.toList

def readSize (value : String) : Option Nat := (readNumber value).map BitVec.toNat

def readTimeout (value : String) : Option (BitVec 64) :=
  (readNumber value).map fun number => (number.setWidth 32).signExtend 64

def readDuration (value : String) : Option (BitVec 64) := (readNumber value).bind parseMilliseconds

/-- The endpoints of `--listen`, or the one that stands there without. -/
def listened (calls : SocketCalls) (values : List String) : List Ipv4Endpoint :=
  if values = [] then ({} : RuntimeConfig).receiver.listenEndpoints
  else values.filterMap fun value => parseEndpoint calls value.toList

/-- What the loop keeps of the pairs it has read. -/
def described (calls : SocketCalls) (pairs : List (String × String)) : RuntimeOptions :=
  let start : RuntimeConfig := {}
  { config :=
      { receiver :=
          { listenEndpoints := listened calls (listenValues pairs)
            maxDatagramsPerListenerPerPoll := (given pairs "--max-drain" readSize).getD
              start.receiver.maxDatagramsPerListenerPerPoll }
        pipeline :=
          { start.pipeline with
            workerCount := (given pairs "--workers" readSize).getD start.pipeline.workerCount
            queueCapacity :=
              (given pairs "--queue-capacity" readSize).getD start.pipeline.queueCapacity }
        health :=
          { start.health with
            maxSources := (given pairs "--max-sources" readSize).getD start.health.maxSources
            degradedAfter :=
              (given pairs "--health-degraded-ms" readDuration).getD start.health.degradedAfter
            offlineAfter :=
              (given pairs "--health-offline-ms" readDuration).getD start.health.offlineAfter
            recoveryAfter :=
              (given pairs "--health-recovery-ms" readDuration).getD start.health.recoveryAfter }
        packetCount := given pairs "--count" readNumber
        pollTimeout := (given pairs "--poll-timeout-ms" readTimeout).getD start.pollTimeout }
    hasExplicitListener := listenValues pairs ≠ []
    seenSingletonOptions := ((pairs.map Prod.fst).filter (· ≠ "--listen")).reverse }

theorem mem_seen_described {calls : SocketCalls} {pairs : List (String × String)} {option : String}
    (single : option ≠ "--listen") :
    option ∈ (described calls pairs).seenSingletonOptions ↔ ∃ pair ∈ pairs, pair.1 = option := by
  change option ∈ (List.filter _ _).reverse ↔ _
  rw [List.mem_reverse, List.mem_filter, List.mem_map]
  exact and_iff_left (decide_eq_true single)

/-- An option set for the first time leaves what the pairs with it describe. -/
theorem sets_described {calls : SocketCalls} {before : List (String × String)}
    {option value : String} {number : BitVec 64} {config : RuntimeConfig}
    (single : option ≠ "--listen") (fresh : ∀ pair ∈ before, pair.1 ≠ option)
    (hnumber : parsePositiveInteger value.toList = some number)
    (h : Sets (described calls before).config number option config) :
    { described calls before with
      config, seenSingletonOptions := option :: (described calls before).seenSingletonOptions } =
      described calls (before ++ [(option, value)]) := by
  have hgiven {Value : Type} (other : String) (read : String → Option Value) :
      given (before ++ [(option, value)]) other read =
        if other = option then read value else given before other read :=
    given_append fresh value other
  have hlisten : listenValues (before ++ [(option, value)]) = listenValues before := by
    rw [listenValues_append, if_neg single, List.append_nil]
  cases h with
  | count => simp [described, hgiven, hlisten, readNumber, hnumber]
  | pollTimeout => simp [described, hgiven, hlisten, readTimeout, readNumber, hnumber]
  | maxDrain => simp [described, hgiven, hlisten, readSize, readNumber, hnumber]
  | maxSources => simp [described, hgiven, hlisten, readSize, readNumber, hnumber]
  | degraded hduration =>
    simp [described, hgiven, hlisten, readDuration, readNumber, hnumber, hduration]
  | offline hduration =>
    simp [described, hgiven, hlisten, readDuration, readNumber, hnumber, hduration]
  | recovery hduration =>
    simp [described, hgiven, hlisten, readDuration, readNumber, hnumber, hduration]
  | workers => simp [described, hgiven, hlisten, readSize, readNumber, hnumber]
  | queueCapacity => simp [described, hgiven, hlisten, readSize, readNumber, hnumber]

theorem listened_append {calls : SocketCalls} {values : List String} {value : String}
    {endpoint : Ipv4Endpoint} (h : parseEndpoint calls value.toList = some endpoint) :
    listened calls (values ++ [value]) =
      (if values ≠ [] then listened calls values else []) ++ [endpoint] := by
  have hsome : values ++ [value] ≠ [] := List.append_ne_nil_of_right_ne_nil _ (List.cons_ne_nil _ _)
  have hlast : [value].filterMap (fun value => parseEndpoint calls value.toList) = [endpoint] :=
    List.filterMap_cons_some h
  rw [listened, if_neg hsome, List.filterMap_append, hlast]
  by_cases hvalues : values = []
  · rw [if_neg (not_not.mpr hvalues), hvalues]
    rfl
  · rw [if_pos hvalues, listened, if_neg hvalues]

/-- A listener read after others leaves what the pairs with it describe. -/
theorem listen_described {calls : SocketCalls} {before : List (String × String)} {value : String}
    {endpoint : Ipv4Endpoint} (h : parseEndpoint calls value.toList = some endpoint) :
    { described calls before with
      config := { (described calls before).config with
        receiver := { (described calls before).config.receiver with
          listenEndpoints := (if (described calls before).hasExplicitListener then
            (described calls before).config.receiver.listenEndpoints else []) ++ [endpoint] } }
      hasExplicitListener := true } = described calls (before ++ [("--listen", value)]) := by
  have hgiven {Value : Type} (other : String) (read : String → Option Value)
      (hne : other ≠ "--listen") :
      given (before ++ [("--listen", value)]) other read = given before other read :=
    given_append_of_ne hne value
  have hlisten : listenValues (before ++ [("--listen", value)]) = listenValues before ++ [value] := by
    rw [listenValues_append, if_pos rfl]
  simp [described, hgiven, hlisten, listened_append h]

/-- **The loop keeps what the pairs describe.** -/
theorem describedBy_parseOption (calls : SocketCalls) :
    DescribedBy (parseOption calls) (fun option => option = "--listen") (ValidOption calls)
      (described calls) where
  step_eq_ok_iff before option value next := by
    by_cases hoption : option = "--listen"
    · subst hoption
      rw [parseOption_listen, ValidOption, if_pos rfl]
      constructor
      · rintro ⟨endpoint, hendpoint, rfl⟩
        exact ⟨fun _ _ _ => rfl, ⟨endpoint, hendpoint⟩, listen_described hendpoint⟩
      · rintro ⟨_, ⟨endpoint, hendpoint⟩, rfl⟩
        exact ⟨endpoint, hendpoint, (listen_described hendpoint).symm⟩
    · rw [parseOption_single hoption, mem_seen_described hoption, ValidOption, if_neg hoption]
      constructor
      · rintro ⟨hseen, number, config, hnumber, hset, rfl⟩
        have hfresh (pair) (hpair : pair ∈ before) : pair.1 ≠ option :=
          fun heq => hseen ⟨pair, hpair, heq⟩
        obtain ⟨set, hvalid⟩ := hset.anywhere {}
        exact ⟨fun pair hpair heq => absurd heq (hfresh pair hpair),
          ⟨number, set, hnumber, hvalid⟩, sets_described hoption hfresh hnumber hset⟩
      · rintro ⟨hfresh, ⟨number, _, hnumber, hvalid⟩, rfl⟩
        have hnew (pair) (hpair : pair ∈ before) : pair.1 ≠ option :=
          fun heq => hoption (hfresh pair hpair heq)
        obtain ⟨config, hset⟩ := hvalid.anywhere (described calls before).config
        exact ⟨fun ⟨pair, hpair, heq⟩ => hnew pair hpair heq, number, config, hnumber, hset,
          (sets_described hoption hnew hnumber hset).symm⟩

/-- The loop accepts complete pairs of good values in which only `--listen` is repeated, and reads
from them what they describe. -/
theorem loop_eq_ok_iff {calls : SocketCalls} {arguments : List String} {options : RuntimeOptions} :
    foldPairs (fun option => "missing value for " ++ option) (parseOption calls) {} arguments =
        .ok options ↔
      arguments.length % 2 = 0 ∧ Once (fun option => option = "--listen") (optionPairs arguments) ∧
      (∀ pair ∈ optionPairs arguments, ValidOption calls pair.1 pair.2) ∧
      options = described calls (optionPairs arguments) :=
  (describedBy_parseOption calls).foldPairs_eq_ok_iff

/-! ## The order of the options -/

theorem listenValues_eq (pairs : List (String × String)) :
    listenValues pairs = (pairs.filter fun pair => pair.1 = "--listen").map Prod.snd := by
  induction pairs with
  | nil => rfl
  | cons pair rest ih =>
    rw [listenValues, List.filterMap_cons, List.filter_cons]
    by_cases hlisten : pair.1 = "--listen"
    · rw [if_pos hlisten, if_pos (decide_eq_true hlisten)]
      exact congrArg (pair.2 :: ·) ih
    · rw [if_neg hlisten, if_neg (fun h => hlisten (of_decide_eq_true h))]
      exact ih

variable {calls : SocketCalls} {pairs others : List (String × String)}

/-- What the pairs describe depends on the order of the listeners alone. -/
theorem config_described_of_perm (once : Once (fun option => option = "--listen") pairs)
    (perm : pairs.Perm others) (listens : listenValues pairs = listenValues others) :
    (described calls pairs).config = (described calls others).config := by
  have hgiven {Value : Type} (option : String) (read : String → Option Value)
      (single : option ≠ "--listen") : given pairs option read = given others option read :=
    given_eq_of_perm once perm single
  simp [described, hgiven, listens]

/-- Any order of the pairs that keeps that of the listeners is parsed to the same configuration. -/
theorem parseRuntimeConfig_of_perm {config : RuntimeConfig} (perm : pairs.Perm others)
    (listens : (pairs.filter fun pair => pair.1 = "--listen") =
      others.filter fun pair => pair.1 = "--listen")
    (h : parseRuntimeConfig calls (pairArguments pairs) = .ok config) :
    parseRuntimeConfig calls (pairArguments others) = .ok config := by
  obtain ⟨options, hloop, hfinish⟩ := bind_eq_ok.mp h
  obtain ⟨_, honce, hvalid, rfl⟩ := loop_eq_ok_iff.mp hloop
  rw [optionPairs_pairArguments] at honce hvalid hfinish
  have hconfig : (described calls pairs).config = (described calls others).config :=
    config_described_of_perm honce perm (by rw [listenValues_eq, listenValues_eq, listens])
  refine bind_eq_ok.mpr ⟨described calls others, loop_eq_ok_iff.mpr ?_, hconfig ▸ hfinish⟩
  rw [optionPairs_pairArguments, length_pairArguments]
  exact ⟨Nat.mul_mod_right 2 _, honce.perm perm,
    fun pair hpair => hvalid pair (perm.mem_iff.mpr hpair), rfl⟩

end Driveflow.Runtime

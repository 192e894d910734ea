import Driveflow.Library.OptionPairs
import Driveflow.Runtime.Runtime

/-!
# The command line of the runtime

`runtime_config.cpp`. The configuration, or the text of the error. Every option but `--listen` may
be given once and has a positive number for its value.
-/

namespace Driveflow.Runtime

open Library Net

/-- `std::numeric_limits<std::size_t>::max()`. -/
def kMaxSize : Nat := 18446744073709551615

/-- `std::numeric_limits<std::chrono::nanoseconds::rep>::max()`. -/
def kMaxNanoseconds : BitVec 64 := 9223372036854775807

def kNanosecondsPerMillisecond : BitVec 64 := 1000000

def parsePositiveInteger (text : List Char) : Option (BitVec 64) :=
  match fromChars 64 text with
  | none => none
  | some (value, rest) =>
    if text = [] ∨ rest ≠ [] ∨ value = 0 then none else some value

/-- `parse_milliseconds`. The cast multiplies in 64 bits, whatever comes of it. -/
def parseMilliseconds (value : BitVec 64) : Option (BitVec 64) :=
  if value > kMaxNanoseconds / kNanosecondsPerMillisecond then none
  else some (value * kNanosecondsPerMillisecond)

def parseEndpoint (calls : SocketCalls) (text : List Char) : Option Ipv4Endpoint :=
  match rfind text ':' with
  | none => none
  | some separator =>
    if separator = 0 ∨ separator + 1 = text.length then none
    else
      match parsePositiveInteger (text.drop (separator + 1)) with
      | none => none
      | some port =>
        if port > 65535 then none
        else
          let address := String.ofList (text.take separator)
          match calls.inetPton address with
          | none => none
          | some _ => some { address, port := port.setWidth 16 }

/-- What the loop of `parse_runtime_config` keeps. -/
structure RuntimeOptions where
  config : RuntimeConfig := {}
  hasExplicitListener : Bool := false
  seenSingletonOptions : List String := []
  deriving DecidableEq, Repr

/-- One of the three health durations. -/
def setHealthDuration (config : RuntimeConfig) (option : String) (number : BitVec 64) :
    Except String RuntimeConfig :=
  match parseMilliseconds number with
  | none => .error (option ++ " is too large")
  | some duration =>
    if option = "--health-degraded-ms" then
      .ok { config with health := { config.health with degradedAfter := duration } }
    else if option = "--health-offline-ms" then
      .ok { config with health := { config.health with offlineAfter := duration } }
    else .ok { config with health := { config.health with recoveryAfter := duration } }

/-- A singleton option with its number. -/
def setNumber (config : RuntimeConfig) (option : String) (number : BitVec 64) :
    Except String RuntimeConfig :=
  if option = "--count" then .ok { config with packetCount := some number }
  else if option = "--poll-timeout-ms" then
    if number.toNat > kMaxInt then .error "--poll-timeout-ms is too large"
    else .ok { config with pollTimeout := (number.setWidth 32).signExtend 64 }
  else if option = "--max-drain" then
    if number.toNat > kMaxSize then .error "--max-drain is too large"
    else
      .ok { config with
        receiver := { config.receiver with maxDatagramsPerListenerPerPoll := number.toNat } }
  else if option = "--max-sources" then
    if number.toNat > kMaxSize then .error "--max-sources is too large"
    else .ok { config with health := { config.health with maxSources := number.toNat } }
  else if option = "--health-degraded-ms" ∨ option = "--health-offline-ms" ∨
      option = "--health-recovery-ms" then
    setHealthDuration config option number
  else if option = "--workers" then
    if number.toNat > kMaxSize then .error "--workers is too large"
    else .ok { config with pipeline := { config.pipeline with workerCount := number.toNat } }
  else if option = "--queue-capacity" then
    if number.toNat > kMaxSize then .error "--queue-capacity is too large"
    else .ok { config with pipeline := { config.pipeline with queueCapacity := number.toNat } }
  else .error ("unknown option: " ++ option)

/-- The body of the loop. -/
def parseOption (calls : SocketCalls) (options : RuntimeOptions) (option value : String) :
    Except String RuntimeOptions :=
  if option = "--listen" then
    match parseEndpoint calls value.toList with
    | none => .error "--listen must use IPv4:port with port between 1 and 65535"
    | some endpoint =>
      let listenEndpoints :=
        if options.hasExplicitListener then options.config.receiver.listenEndpoints else []
      let receiver :=
        { options.config.receiver with listenEndpoints := listenEndpoints ++ [endpoint] }
      .ok { options with config := { options.config with receiver }, hasExplicitListener := true }
  else if option ∈ options.seenSingletonOptions then .error ("duplicate option: " ++ option)
  else
    match parsePositiveInteger value.toList with
    | none => .error (option ++ " must be a positive integer")
    | some number => do
      let config ← setNumber options.config option number
      .ok { options with config, seenSingletonOptions := option :: options.seenSingletonOptions }

/-- `parse_runtime_config`. -/
def parseRuntimeConfig (calls : SocketCalls) (arguments : List String) :
    Except String RuntimeConfig := do
  let options ← foldPairs (fun option => "missing value for " ++ option) (parseOption calls) {}
    arguments
  if options.config.health.offlineAfter.toInt ≤ options.config.health.degradedAfter.toInt then
    .error "--health-offline-ms must exceed --health-degraded-ms"
  else .ok options.config

end Driveflow.Runtime

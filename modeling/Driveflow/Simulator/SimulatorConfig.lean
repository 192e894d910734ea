import Driveflow.Library.OptionPairs
import Driveflow.Simulator.SensorSimulator

/-!
# The command line of the simulator

`parse_simulator_config` of `sensor_simulator.cpp`: the configuration, or the text of the error.
Every option may be given once.

`std::from_chars` into a `double` is a parameter: the number and the text behind it, where an
infinity or a NaN has no exact value.
-/

namespace Driveflow.Simulator

open Library Net Protocol

/-- `std::from_chars` into a `double`. -/
abbrev FromCharsDouble := List Char → Option (Option ℚ × List Char)

/-- `parse_number` into an unsigned integer. -/
def parseNumber (width : Nat) (text : List Char) : Option (BitVec width) :=
  match fromChars width text with
  | none => none
  | some (value, rest) => if rest = [] then some value else none

/-- `parse_number` into a `double`. -/
def parseDouble (fromCharsDouble : FromCharsDouble) (text : List Char) : Option (Option ℚ) :=
  match fromCharsDouble text with
  | none => none
  | some (value, rest) => if rest = [] then some value else none

def defaultRateHz (sensorType : SensorType) : ℚ :=
  if sensorType = .kImu then 200
  else if sensorType = .kGnss then 10
  else 30

/-- What the loop of `parse_simulator_config` keeps. -/
structure SimulatorOptions where
  config : SimulatorConfig := { destination := { address := "127.0.0.1", port := 9000 } }
  hasSensor : Bool := false
  hasExplicitRate : Bool := false
  delayEvery : Option (BitVec 64) := none
  delayMs : Option (BitVec 64) := none
  seenOptions : List String := []
  deriving DecidableEq, Repr

/-- The value of one of the five `-every` options. -/
def parseInterval (name : String) (text : List Char) : Except String (BitVec 64) :=
  match parseNumber 64 text with
  | none => .error (name ++ " must be a positive integer")
  | some interval =>
    if interval = 0 then .error (name ++ " must be a positive integer") else .ok interval

def parseSensor (value : String) : Except String SensorType :=
  if value = "imu" then .ok .kImu
  else if value = "gnss" then .ok .kGnss
  else if value = "camera" then .ok .kCameraMeta
  else .error "sensor must be imu, gnss, or camera"

/-- `std::size_t` is as wide as the count. -/
def parseExtraBytes (text : List Char) : Except String Nat :=
  match parseNumber 64 text with
  | none => .error "camera-extra-bytes must be a non-negative integer"
  | some bytes => .ok bytes.toNat

def parseDelayMs (text : List Char) : Except String (BitVec 64) :=
  match parseNumber 64 text with
  | none => .error "delay-ms must be an integer between 1 and 60000"
  | some durationMs =>
    if durationMs = 0 ∨ durationMs.toNat > kMaximumFaultDelay then
      .error "delay-ms must be an integer between 1 and 60000"
    else .ok durationMs

/-- An option that was not seen before, with its value. -/
def setOption (fromCharsDouble : FromCharsDouble) (options : SimulatorOptions)
    (option value : String) : Except String SimulatorOptions :=
  let config := options.config
  let faults := config.faults
  if option = "--sensor" then do
    let sensorType ← parseSensor value
    .ok { options with config := { config with sensorType }, hasSensor := true }
  else if option = "--destination" then
    .ok { options with
      config := { config with destination := { config.destination with address := value } } }
  else if option = "--port" then
    match parseNumber 16 value.toList with
    | none => .error "port must be an integer between 1 and 65535"
    | some port =>
      .ok { options with config := { config with destination := { config.destination with port } } }
  else if option = "--rate-hz" then
    match parseDouble fromCharsDouble value.toList with
    | none => .error "rate-hz must be a number"
    | some rateHz => .ok { options with config := { config with rateHz }, hasExplicitRate := true }
  else if option = "--count" then
    match parseNumber 64 value.toList with
    | none => .error "count must be a positive integer"
    | some packetCount => .ok { options with config := { config with packetCount } }
  else if option = "--camera-extra-bytes" then do
    let cameraExtraDataBytes ← parseExtraBytes value.toList
    .ok { options with config := { config with cameraExtraDataBytes } }
  else if option = "--drop-every" then do
    let interval ← parseInterval "drop-every" value.toList
    .ok { options with config := { config with faults := { faults with dropEvery := interval } } }
  else if option = "--duplicate-every" then do
    let interval ← parseInterval "duplicate-every" value.toList
    .ok { options with
      config := { config with faults := { faults with duplicateEvery := interval } } }
  else if option = "--reorder-every" then do
    let interval ← parseInterval "reorder-every" value.toList
    .ok { options with
      config := { config with faults := { faults with reorderEvery := interval } } }
  else if option = "--delay-every" then do
    let interval ← parseInterval "delay-every" value.toList
    .ok { options with delayEvery := interval }
  else if option = "--delay-ms" then do
    let durationMs ← parseDelayMs value.toList
    .ok { options with delayMs := durationMs }
  else if option = "--corrupt-every" then do
    let interval ← parseInterval "corrupt-every" value.toList
    .ok { options with
      config := { config with faults := { faults with corruptEvery := interval } } }
  else .error ("unknown option: " ++ option)

/-- The body of the loop. -/
def parseOption (fromCharsDouble : FromCharsDouble) (options : SimulatorOptions)
    (option value : String) : Except String SimulatorOptions :=
  if option ∈ options.seenOptions then .error ("option specified more than once: " ++ option)
  else
    setOption fromCharsDouble { options with seenOptions := option :: options.seenOptions } option
      value

/-- The checks behind the loop. -/
def finishOptions (calls : SocketCalls) (options : SimulatorOptions) :
    Except String SimulatorConfig :=
  if !options.hasSensor then .error "--sensor is required"
  else
    let config :=
      if !options.hasExplicitRate then
        { options.config with rateHz := some (defaultRateHz options.config.sensorType) }
      else options.config
    if !isIpv4Address calls config.destination.address then
      .error "destination must be an IPv4 address"
    else if config.destination.port = 0 then
      .error "port must be an integer between 1 and 65535"
    else if !rateAllowed config.rateHz then
      .error "rate-hz must be greater than 0 and no more than 1000000"
    else if config.packetCount = some 0 then .error "count must be a positive integer"
    else if config.cameraExtraDataBytes > kMaxCameraExtraDataSize then
      .error "camera-extra-bytes exceeds the protocol payload limit"
    else if config.sensorType ≠ .kCameraMeta ∧ config.cameraExtraDataBytes ≠ 0 then
      .error "camera-extra-bytes is only valid for the camera sensor"
    else
      match options.delayEvery, options.delayMs with
      | some every, some delayMs =>
        let delay := { every, duration := delayMs.toInt }
        .ok { config with faults := { config.faults with delay := some delay } }
      | none, none => .ok config
      | _, _ => .error "--delay-every and --delay-ms must be specified together"

/-- `parse_simulator_config`. -/
def parseSimulatorConfig (calls : SocketCalls) (fromCharsDouble : FromCharsDouble)
    (arguments : List String) : Except String SimulatorConfig := do
  let options ← foldPairs (fun _ => "every option requires a value") (parseOption fromCharsDouble)
    {} arguments
  finishOptions calls options

end Driveflow.Simulator

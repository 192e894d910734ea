import Driveflow.Library.Ieee754
import Driveflow.Protocol.Packet

/-!
# Typed sensor payloads

`sensor_payload.hpp` and `sensor_payload.cpp`: three fixed layouts, the camera's with a
self-described variable tail. Floating-point fields are bit patterns, since that is what the wire
carries; the validator reads finiteness and order from the bits.
-/

namespace Driveflow.Protocol

open Library

def kImuPayloadSize : Nat := 24
def kGnssPayloadSize : Nat := 32
def kCameraMetaFixedPayloadSize : Nat := 24
def kMaxCameraExtraDataSize : Nat := kMaxPayloadSize - kCameraMetaFixedPayloadSize

structure Vector3f where
  x : Binary32
  y : Binary32
  z : Binary32
  deriving DecidableEq, Repr

structure ImuSample where
  linearAccelerationMps2 : Vector3f
  angularVelocityRps : Vector3f
  deriving DecidableEq, Repr

structure GnssFix where
  latitudeDeg : Binary64
  longitudeDeg : Binary64
  altitudeM : Binary64
  horizontalAccuracyM : Binary32
  verticalAccuracyM : Binary32
  deriving DecidableEq, Repr

structure CameraMeta where
  frameId : BitVec 64
  width : BitVec 32
  height : BitVec 32
  exposureTimeUs : BitVec 32
  extraData : Bytes
  deriving DecidableEq, Repr

/-- `std::variant<ImuSample, GnssFix, CameraMeta>`. -/
inductive SensorPayload where
  | imuSample (sample : ImuSample)
  | gnssFix (fix : GnssFix)
  | cameraMeta (metadata : CameraMeta)
  deriving DecidableEq, Repr

inductive SensorPayloadError where
  | kNone
  | kUnknownMessageType
  | kSizeMismatch
  | kNonFiniteNumber
  | kValueOutOfRange
  deriving DecidableEq, Repr

/-- `to_string`. -/
def SensorPayloadError.toString : SensorPayloadError → String
  | .kNone => "none"
  | .kUnknownMessageType => "unknown sensor message type"
  | .kSizeMismatch => "sensor payload size mismatch"
  | .kNonFiniteNumber => "sensor payload contains a non-finite number"
  | .kValueOutOfRange => "sensor payload value is out of range"

structure DecodeSensorPayloadResult where
  payload : Option SensorPayload
  error : SensorPayloadError
  deriving DecidableEq, Repr

def kImuAccelerationXOffset : Nat := 0
def kImuAccelerationYOffset : Nat := 4
def kImuAccelerationZOffset : Nat := 8
def kImuAngularVelocityXOffset : Nat := 12
def kImuAngularVelocityYOffset : Nat := 16
def kImuAngularVelocityZOffset : Nat := 20

def kGnssLatitudeOffset : Nat := 0
def kGnssLongitudeOffset : Nat := 8
def kGnssAltitudeOffset : Nat := 16
def kGnssHorizontalAccuracyOffset : Nat := 24
def kGnssVerticalAccuracyOffset : Nat := 28

def kCameraFrameIdOffset : Nat := 0
def kCameraWidthOffset : Nat := 8
def kCameraHeightOffset : Nat := 12
def kCameraExposureOffset : Nat := 16
def kCameraExtraDataLengthOffset : Nat := 20

/-! ## Validation -/

/-- `90.0` and `180.0`, and their negations. -/
def ninety : Binary64 := ⟨0x4056800000000000#64⟩
def minusNinety : Binary64 := ⟨0xc056800000000000#64⟩
def oneEighty : Binary64 := ⟨0x4066800000000000#64⟩
def minusOneEighty : Binary64 := ⟨0xc066800000000000#64⟩

/-- `0.0F`. -/
def zeroF : Binary32 := ⟨0#32⟩

def ImuSample.validate (sample : ImuSample) : SensorPayloadError :=
  let acceleration := sample.linearAccelerationMps2
  let angularVelocity := sample.angularVelocityRps
  if !acceleration.x.isFinite || !acceleration.y.isFinite || !acceleration.z.isFinite ||
      !angularVelocity.x.isFinite || !angularVelocity.y.isFinite ||
      !angularVelocity.z.isFinite then
    .kNonFiniteNumber
  else .kNone

def GnssFix.validate (fix : GnssFix) : SensorPayloadError :=
  if !fix.latitudeDeg.isFinite || !fix.longitudeDeg.isFinite || !fix.altitudeM.isFinite ||
      !fix.horizontalAccuracyM.isFinite || !fix.verticalAccuracyM.isFinite then
    .kNonFiniteNumber
  else if fix.latitudeDeg.lt minusNinety || ninety.lt fix.latitudeDeg ||
      fix.longitudeDeg.lt minusOneEighty || oneEighty.lt fix.longitudeDeg ||
      fix.horizontalAccuracyM.lt zeroF || fix.verticalAccuracyM.lt zeroF then
    .kValueOutOfRange
  else .kNone

def CameraMeta.validate (metadata : CameraMeta) : SensorPayloadError :=
  if metadata.width = 0#32 ∨ metadata.height = 0#32 ∨
      metadata.extraData.length > kMaxCameraExtraDataSize then
    .kValueOutOfRange
  else .kNone

/-- `require_valid`. -/
def requireValid (error : SensorPayloadError) : Except Exception Unit :=
  if error ≠ .kNone then .error (.invalidArgument error.toString) else .ok ()

/-! ## Encoding -/

open Wire

/-- `write_float` and `write_double`: the bit pattern, as an integer. -/
def Wire.writeFloat {width fractionBits : Nat} (output : Bytes) (offset : Nat)
    (value : Binary width fractionBits) : Bytes := writeBigEndian output offset value.bits

/-- `read_float` and `read_double`. -/
def Wire.readFloat (width fractionBits : Nat) (input : Bytes) (offset : Nat) :
    Option (Binary width fractionBits) :=
  (readBigEndian width input offset).map Binary.mk

def ImuSample.encode (sample : ImuSample) : Except Exception Bytes := do
  requireValid sample.validate
  let bytes : Bytes := List.replicate kImuPayloadSize 0
  let bytes := writeFloat bytes kImuAccelerationXOffset sample.linearAccelerationMps2.x
  let bytes := writeFloat bytes kImuAccelerationYOffset sample.linearAccelerationMps2.y
  let bytes := writeFloat bytes kImuAccelerationZOffset sample.linearAccelerationMps2.z
  let bytes := writeFloat bytes kImuAngularVelocityXOffset sample.angularVelocityRps.x
  let bytes := writeFloat bytes kImuAngularVelocityYOffset sample.angularVelocityRps.y
  let bytes := writeFloat bytes kImuAngularVelocityZOffset sample.angularVelocityRps.z
  .ok bytes

def GnssFix.encode (fix : GnssFix) : Except Exception Bytes := do
  requireValid fix.validate
  let bytes : Bytes := List.replicate kGnssPayloadSize 0
  let bytes := writeFloat bytes kGnssLatitudeOffset fix.latitudeDeg
  let bytes := writeFloat bytes kGnssLongitudeOffset fix.longitudeDeg
  let bytes := writeFloat bytes kGnssAltitudeOffset fix.altitudeM
  let bytes := writeFloat bytes kGnssHorizontalAccuracyOffset fix.horizontalAccuracyM
  let bytes := writeFloat bytes kGnssVerticalAccuracyOffset fix.verticalAccuracyM
  .ok bytes

def CameraMeta.encode (metadata : CameraMeta) : Except Exception Bytes :=
  if metadata.extraData.length > kMaxCameraExtraDataSize then
    .error (.lengthError "camera extra data exceeds the DriveFlow payload limit")
  else do
    requireValid metadata.validate
    let bytes : Bytes :=
      List.replicate (kCameraMetaFixedPayloadSize + metadata.extraData.length) 0
    let bytes := writeBigEndian bytes kCameraFrameIdOffset metadata.frameId
    let bytes := writeBigEndian bytes kCameraWidthOffset metadata.width
    let bytes := writeBigEndian bytes kCameraHeightOffset metadata.height
    let bytes := writeBigEndian bytes kCameraExposureOffset metadata.exposureTimeUs
    let bytes := writeBigEndian bytes kCameraExtraDataLengthOffset
      (BitVec.ofNat 32 metadata.extraData.length)
    .ok (splice bytes kCameraMetaFixedPayloadSize metadata.extraData)

/-- `message_type`. -/
def SensorPayload.messageType : SensorPayload → MessageType
  | .imuSample _ => .kImu
  | .gnssFix _ => .kGnss
  | .cameraMeta _ => .kCameraMeta

def encodeSensorPayload : SensorPayload → Except Exception Bytes
  | .imuSample sample => sample.encode
  | .gnssFix fix => fix.encode
  | .cameraMeta metadata => metadata.encode

/-! ## Decoding -/

/-- `failure(error)`. -/
def payloadFailure (error : SensorPayloadError) : DecodeSensorPayloadResult :=
  { payload := none, error }

/-- `success(payload)`. -/
def payloadSuccess (payload : SensorPayload) : DecodeSensorPayloadResult :=
  { payload := some payload, error := .kNone }

def decodeImu (bytes : Bytes) : Option DecodeSensorPayloadResult :=
  if bytes.length ≠ kImuPayloadSize then
    some (payloadFailure .kSizeMismatch)
  else do
    let accelerationX ← readFloat 32 23 bytes kImuAccelerationXOffset
    let accelerationY ← readFloat 32 23 bytes kImuAccelerationYOffset
    let accelerationZ ← readFloat 32 23 bytes kImuAccelerationZOffset
    let angularVelocityX ← readFloat 32 23 bytes kImuAngularVelocityXOffset
    let angularVelocityY ← readFloat 32 23 bytes kImuAngularVelocityYOffset
    let angularVelocityZ ← readFloat 32 23 bytes kImuAngularVelocityZOffset
    let sample : ImuSample :=
      { linearAccelerationMps2 := { x := accelerationX, y := accelerationY, z := accelerationZ }
        angularVelocityRps :=
          { x := angularVelocityX, y := angularVelocityY, z := angularVelocityZ } }
    let error := sample.validate
    some (if error = .kNone then payloadSuccess (.imuSample sample) else payloadFailure error)

def decodeGnss (bytes : Bytes) : Option DecodeSensorPayloadResult :=
  if bytes.length ≠ kGnssPayloadSize then
    some (payloadFailure .kSizeMismatch)
  else do
    let latitudeDeg ← readFloat 64 52 bytes kGnssLatitudeOffset
    let longitudeDeg ← readFloat 64 52 bytes kGnssLongitudeOffset
    let altitudeM ← readFloat 64 52 bytes kGnssAltitudeOffset
    let horizontalAccuracyM ← readFloat 32 23 bytes kGnssHorizontalAccuracyOffset
    let verticalAccuracyM ← readFloat 32 23 bytes kGnssVerticalAccuracyOffset
    let fix : GnssFix :=
      { latitudeDeg, longitudeDeg, altitudeM, horizontalAccuracyM, verticalAccuracyM }
    let error := fix.validate
    some (if error = .kNone then payloadSuccess (.gnssFix fix) else payloadFailure error)

def decodeCamera (bytes : Bytes) : Option DecodeSensorPayloadResult :=
  if bytes.length < kCameraMetaFixedPayloadSize then
    some (payloadFailure .kSizeMismatch)
  else do
    let rawExtraSize ← readBigEndian 32 bytes kCameraExtraDataLengthOffset
    let extraSize := rawExtraSize.toNat
    if extraSize > kMaxCameraExtraDataSize then
      some (payloadFailure .kValueOutOfRange)
    else if bytes.length ≠ kCameraMetaFixedPayloadSize + extraSize then
      some (payloadFailure .kSizeMismatch)
    else do
      let frameId ← readBigEndian 64 bytes kCameraFrameIdOffset
      let width ← readBigEndian 32 bytes kCameraWidthOffset
      let height ← readBigEndian 32 bytes kCameraHeightOffset
      let exposureTimeUs ← readBigEndian 32 bytes kCameraExposureOffset
      let extraBytes ← subspan bytes kCameraMetaFixedPayloadSize
      let metadata : CameraMeta :=
        { frameId, width, height, exposureTimeUs, extraData := extraBytes }
      let error := metadata.validate
      some (if error = .kNone then payloadSuccess (.cameraMeta metadata)
        else payloadFailure error)

def decodeSensorPayload (type : MessageType) (bytes : Bytes) :
    Option DecodeSensorPayloadResult :=
  if type = .kImu then decodeImu bytes
  else if type = .kGnss then decodeGnss bytes
  else if type = .kCameraMeta then decodeCamera bytes
  else some (payloadFailure .kUnknownMessageType)

end Driveflow.Protocol

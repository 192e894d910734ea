import Driveflow.Library.Logged
import Driveflow.Protocol.SensorPayload

/-!
# The decoders with their accesses

`decode_packet` and `decode_sensor_payload` once more, statement for statement, with a log of every
index they read and of every size they add up. A span is read from its first byte to its last.
-/

namespace Driveflow.Protocol

open Library Wire

/-- A byte that is read, or a size that is computed. -/
inductive Access where
  | read (index : Nat)
  | size (sum : Nat)
  deriving DecidableEq, Repr

/-- A read inside a span of that length, or a size of 32 bits. -/
def Access.Allowed (length : Nat) : Access → Prop
  | .read index => index < length
  | .size sum => sum < 2 ^ 32

/-- `input[index]`. -/
def accessByte (input : Bytes) (index : Nat) : Logged Access Byte := do
  Logged.event (.read index)
  Logged.ofOption input[index]?

def accessBigEndian (w : Nat) (input : Bytes) (offset : Nat) : Logged Access (BitVec w) :=
  (List.range (w / 8)).foldlM
    (fun value index => do
      let byte ← accessByte input (offset + index)
      pure ((value <<< 8) ||| byte.setWidth w))
    0

def accessFloat (width fractionBits : Nat) (input : Bytes) (offset : Nat) :
    Logged Access (Binary width fractionBits) := do
  let bits ← accessBigEndian width input offset
  pure (Binary.mk bits)

/-- The bytes of `span.first(count)`. -/
def accessFirst (bytes : Bytes) (count : Nat) : Logged Access Bytes where
  value := first bytes count
  log := (List.range count).map .read

/-- The bytes of `span.subspan(offset)`. -/
def accessSubspan (bytes : Bytes) (offset : Nat) : Logged Access Bytes where
  value := subspan bytes offset
  log := (List.range' offset (bytes.length - offset)).map .read

/-- A fixed size and a declared one. -/
def addSizes (fixed declared : Nat) : Logged Access Nat := do
  Logged.event (.size (fixed + declared))
  pure (fixed + declared)

/-- `decode_packet`. -/
def accessPacket (bytes : Bytes) : Logged Access DecodeResult :=
  if bytes.length < kPacketHeaderSize then
    pure (decodeFailure .kTruncatedHeader)
  else do
    let magic ← accessBigEndian 32 bytes kMagicOffset
    let version ← accessBigEndian 16 bytes kVersionOffset
    let rawType ← accessBigEndian 16 bytes kMessageTypeOffset
    let sequenceNumber ← accessBigEndian 64 bytes kSequenceNumberOffset
    let sourceTimestampNs ← accessBigEndian 64 bytes kTimestampOffset
    let payloadLength ← accessBigEndian 32 bytes kPayloadLengthOffset
    let crc ← accessBigEndian 32 bytes kCrcOffset
    let header : PacketHeader :=
      { magic, version, messageType := ⟨rawType⟩, sequenceNumber, sourceTimestampNs,
        payloadLength, crc32 := crc }
    if header.magic ≠ kPacketMagic then
      pure (decodeFailure .kInvalidMagic)
    else if header.version ≠ kProtocolVersion then
      pure (decodeFailure .kUnsupportedVersion)
    else if !isKnownMessageType rawType then
      pure (decodeFailure .kUnknownMessageType)
    else if header.payloadLength.toNat > kMaxPayloadSize then
      pure (decodeFailure .kPayloadTooLarge)
    else do
      let expectedSize ← addSizes kPacketHeaderSize header.payloadLength.toNat
      if bytes.length < expectedSize then
        pure (decodeFailure .kTruncatedPayload)
      else if bytes.length ≠ expectedSize then
        pure (decodeFailure .kLengthMismatch)
      else do
        let headerWithoutCrc ← accessFirst bytes kCrcOffset
        let payload ← accessSubspan bytes kPacketHeaderSize
        if packetCrc headerWithoutCrc payload ≠ header.crc32 then
          pure (decodeFailure .kCrcMismatch)
        else
          pure { packet := some { header, payload }, error := .kNone }

def accessImu (bytes : Bytes) : Logged Access DecodeSensorPayloadResult :=
  if bytes.length ≠ kImuPayloadSize then
    pure (payloadFailure .kSizeMismatch)
  else do
    let accelerationX ← accessFloat 32 23 bytes kImuAccelerationXOffset
    let accelerationY ← accessFloat 32 23 bytes kImuAccelerationYOffset
    let accelerationZ ← accessFloat 32 23 bytes kImuAccelerationZOffset
    let angularVelocityX ← accessFloat 32 23 bytes kImuAngularVelocityXOffset
    let angularVelocityY ← accessFloat 32 23 bytes kImuAngularVelocityYOffset
    let angularVelocityZ ← accessFloat 32 23 bytes kImuAngularVelocityZOffset
    let sample : ImuSample :=
      { linearAccelerationMps2 := { x := accelerationX, y := accelerationY, z := accelerationZ }
        angularVelocityRps :=
          { x := angularVelocityX, y := angularVelocityY, z := angularVelocityZ } }
    let error := sample.validate
    pure (if error = .kNone then payloadSuccess (.imuSample sample) else payloadFailure error)

def accessGnss (bytes : Bytes) : Logged Access DecodeSensorPayloadResult :=
  if bytes.length ≠ kGnssPayloadSize then
    pure (payloadFailure .kSizeMismatch)
  else do
    let latitudeDeg ← accessFloat 64 52 bytes kGnssLatitudeOffset
    let longitudeDeg ← accessFloat 64 52 bytes kGnssLongitudeOffset
    let altitudeM ← accessFloat 64 52 bytes kGnssAltitudeOffset
    let horizontalAccuracyM ← accessFloat 32 23 bytes kGnssHorizontalAccuracyOffset
    let verticalAccuracyM ← accessFloat 32 23 bytes kGnssVerticalAccuracyOffset
    let fix : GnssFix :=
      { latitudeDeg, longitudeDeg, altitudeM, horizontalAccuracyM, verticalAccuracyM }
    let error := fix.validate
    pure (if error = .kNone then payloadSuccess (.gnssFix fix) else payloadFailure error)

def accessCamera (bytes : Bytes) : Logged Access DecodeSensorPayloadResult :=
  if bytes.length < kCameraMetaFixedPayloadSize then
    pure (payloadFailure .kSizeMismatch)
  else do
    let rawExtraSize ← accessBigEndian 32 bytes kCameraExtraDataLengthOffset
    let extraSize := rawExtraSize.toNat
    if extraSize > kMaxCameraExtraDataSize then
      pure (payloadFailure .kValueOutOfRange)
    else do
      let expectedSize ← addSizes kCameraMetaFixedPayloadSize extraSize
      if bytes.length ≠ expectedSize then
        pure (payloadFailure .kSizeMismatch)
      else do
        let frameId ← accessBigEndian 64 bytes kCameraFrameIdOffset
        let width ← accessBigEndian 32 bytes kCameraWidthOffset
        let height ← accessBigEndian 32 bytes kCameraHeightOffset
        let exposureTimeUs ← accessBigEndian 32 bytes kCameraExposureOffset
        let extraBytes ← accessSubspan bytes kCameraMetaFixedPayloadSize
        let metadata : CameraMeta :=
          { frameId, width, height, exposureTimeUs, extraData := extraBytes }
        let error := metadata.validate
        pure (if error = .kNone then payloadSuccess (.cameraMeta metadata)
          else payloadFailure error)

/-- `decode_sensor_payload`. -/
def accessSensorPayload (type : MessageType) (bytes : Bytes) :
    Logged Access DecodeSensorPayloadResult :=
  if type = .kImu then accessImu bytes
  else if type = .kGnss then accessGnss bytes
  else if type = .kCameraMeta then accessCamera bytes
  else pure (payloadFailure .kUnknownMessageType)

end Driveflow.Protocol

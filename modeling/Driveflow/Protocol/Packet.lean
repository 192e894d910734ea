import Driveflow.Protocol.Wire

/-!
# The packet envelope

`packet.hpp` and `packet.cpp`: a fixed 32-byte big-endian header, a payload of at most
`kMaxPayloadSize` bytes, and a CRC-32 over everything but its own four bytes.

A `MessageType` is any 16-bit value, as the C++ enumeration with a fixed underlying type is: the
decoder makes one from raw bytes before it asks `isKnownMessageType`.
-/

namespace Driveflow.Protocol

open Library

def kPacketMagic : BitVec 32 := 0x4452464c#32
def kProtocolVersion : BitVec 16 := 1#16
def kPacketHeaderSize : Nat := 32
def kMaxPayloadSize : Nat := 65475

structure MessageType where
  value : BitVec 16
  deriving DecidableEq, Repr

namespace MessageType

def kImu : MessageType := ⟨1#16⟩
def kGnss : MessageType := ⟨2#16⟩
def kCameraMeta : MessageType := ⟨3#16⟩

end MessageType

structure PacketHeader where
  magic : BitVec 32 := kPacketMagic
  version : BitVec 16 := kProtocolVersion
  messageType : MessageType := .kImu
  sequenceNumber : BitVec 64 := 0
  sourceTimestampNs : BitVec 64 := 0
  payloadLength : BitVec 32 := 0
  crc32 : BitVec 32 := 0
  deriving DecidableEq, Repr

structure Packet where
  header : PacketHeader := {}
  payload : Bytes := []
  deriving DecidableEq, Repr

inductive DecodeError where
  | kNone
  | kTruncatedHeader
  | kInvalidMagic
  | kUnsupportedVersion
  | kUnknownMessageType
  | kPayloadTooLarge
  | kTruncatedPayload
  | kLengthMismatch
  | kCrcMismatch
  deriving DecidableEq, Repr

structure DecodeResult where
  packet : Option Packet
  error : DecodeError
  deriving DecidableEq, Repr

def kMagicOffset : Nat := 0
def kVersionOffset : Nat := 4
def kMessageTypeOffset : Nat := 6
def kSequenceNumberOffset : Nat := 8
def kTimestampOffset : Nat := 16
def kPayloadLengthOffset : Nat := 24
def kCrcOffset : Nat := 28
def kCrcInitialState : BitVec 32 := 0xffffffff#32
def kCrcPolynomial : BitVec 32 := 0xedb88320#32

def isKnownMessageType (rawType : BitVec 16) : Bool :=
  MessageType.mk rawType = .kImu || MessageType.mk rawType = .kGnss ||
    MessageType.mk rawType = .kCameraMeta

/-! ## The checksum -/

/-- The body of the inner loop of `update_crc`: one bit, with the branch-free mask. -/
def updateCrcBit (state : BitVec 32) : BitVec 32 :=
  let mask := 0#32 - (state &&& 1#32)
  (state >>> 1) ^^^ (kCrcPolynomial &&& mask)

def updateCrc (state : BitVec 32) (bytes : Bytes) : BitVec 32 :=
  bytes.foldl
    (fun state byte =>
      (List.range 8).foldl (fun state _ => updateCrcBit state) (state ^^^ byte.setWidth 32))
    state

def packetCrc (headerWithoutCrc payload : Bytes) : BitVec 32 :=
  let state := updateCrc kCrcInitialState headerWithoutCrc
  let state := updateCrc state payload
  state ^^^ kCrcInitialState

def crc32 (bytes : Bytes) : BitVec 32 := updateCrc kCrcInitialState bytes ^^^ kCrcInitialState

/-! ## The codec -/

open Wire

/-- `encode_packet`. The buffer starts as zeros; the checksum is computed over what was written
and stored last. -/
def encodePacket (messageType : MessageType) (sequenceNumber sourceTimestampNs : BitVec 64)
    (payload : Bytes) : Except Exception Bytes :=
  let rawType := messageType.value
  if !isKnownMessageType rawType then
    .error (.invalidArgument "unknown DriveFlow message type")
  else if payload.length > kMaxPayloadSize then
    .error (.lengthError "DriveFlow payload exceeds the v1 limit")
  else
    let encoded : Bytes := List.replicate (kPacketHeaderSize + payload.length) 0
    let encoded := writeBigEndian encoded kMagicOffset kPacketMagic
    let encoded := writeBigEndian encoded kVersionOffset kProtocolVersion
    let encoded := writeBigEndian encoded kMessageTypeOffset rawType
    let encoded := writeBigEndian encoded kSequenceNumberOffset sequenceNumber
    let encoded := writeBigEndian encoded kTimestampOffset sourceTimestampNs
    let encoded := writeBigEndian encoded kPayloadLengthOffset (BitVec.ofNat 32 payload.length)
    let encoded := splice encoded kPacketHeaderSize payload
    let headerWithoutCrc := encoded.take kCrcOffset
    let encodedPayload := encoded.drop kPacketHeaderSize
    .ok (writeBigEndian encoded kCrcOffset (packetCrc headerWithoutCrc encodedPayload))

/-- `failure(error)`. -/
def decodeFailure (error : DecodeError) : DecodeResult := { packet := none, error }

/-- `decode_packet`: the checks in the source's order, structural length first and the checksum
last. `none` would be a read outside the bytes. -/
def decodePacket (bytes : Bytes) : Option DecodeResult :=
  if bytes.length < kPacketHeaderSize then
    some (decodeFailure .kTruncatedHeader)
  else do
    let magic ← readBigEndian 32 bytes kMagicOffset
    let version ← readBigEndian 16 bytes kVersionOffset
    let rawType ← readBigEndian 16 bytes kMessageTypeOffset
    let sequenceNumber ← readBigEndian 64 bytes kSequenceNumberOffset
    let sourceTimestampNs ← readBigEndian 64 bytes kTimestampOffset
    let payloadLength ← readBigEndian 32 bytes kPayloadLengthOffset
    let crc ← readBigEndian 32 bytes kCrcOffset
    let header : PacketHeader :=
      { magic, version, messageType := ⟨rawType⟩, sequenceNumber, sourceTimestampNs,
        payloadLength, crc32 := crc }
    if header.magic ≠ kPacketMagic then
      some (decodeFailure .kInvalidMagic)
    else if header.version ≠ kProtocolVersion then
      some (decodeFailure .kUnsupportedVersion)
    else if !isKnownMessageType rawType then
      some (decodeFailure .kUnknownMessageType)
    else if header.payloadLength.toNat > kMaxPayloadSize then
      some (decodeFailure .kPayloadTooLarge)
    else
      let expectedSize := kPacketHeaderSize + header.payloadLength.toNat
      if bytes.length < expectedSize then
        some (decodeFailure .kTruncatedPayload)
      else if bytes.length ≠ expectedSize then
        some (decodeFailure .kLengthMismatch)
      else do
        let headerWithoutCrc ← first bytes kCrcOffset
        let payload ← subspan bytes kPacketHeaderSize
        if packetCrc headerWithoutCrc payload ≠ header.crc32 then
          some (decodeFailure .kCrcMismatch)
        else
          some { packet := some { header, payload }, error := .kNone }

/-- The bytes of a packet that the checksum covers: the header before it, then the payload. -/
def crcCovered (bytes : Bytes) : Bytes := bytes.take kCrcOffset ++ bytes.drop kPacketHeaderSize

/-- `decode_packet` accepts the bytes, as `packet`. -/
def DecodesTo (bytes : Bytes) (packet : Packet) : Prop :=
  ∃ result, decodePacket bytes = some result ∧ result.packet = some packet

/-- `decode_packet` refuses the bytes, with some error. -/
def Rejects (bytes : Bytes) : Prop :=
  ∃ error, error ≠ DecodeError.kNone ∧ decodePacket bytes = some (decodeFailure error)

end Driveflow.Protocol

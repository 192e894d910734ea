import Driveflow.Protocol.Packet

/-!
# The packet layout

Every byte string of at least a header's size is the layout of exactly one header and payload, and
on a layout `decodePacket` is a cascade of checks of the header's fields: no offset is left. The
encoder's buffer is the layout of a sealed header. Every law of the envelope is stated over these
two normal forms.
-/

namespace Driveflow.Protocol

open Library Wire

/-- The header bytes that the checksum covers. -/
def headerBytes (header : PacketHeader) : Bytes :=
  BigEndian.encode header.magic ++ (BigEndian.encode header.version ++
    (BigEndian.encode header.messageType.value ++ (BigEndian.encode header.sequenceNumber ++
      (BigEndian.encode header.sourceTimestampNs ++ BigEndian.encode header.payloadLength))))

/-- A header and a payload as the bytes of a datagram. -/
def layout (header : PacketHeader) (payload : Bytes) : Bytes :=
  headerBytes header ++ (BigEndian.encode header.crc32 ++ payload)

@[simp] theorem length_headerBytes (header : PacketHeader) : (headerBytes header).length = 28 := by
  simp only [headerBytes, List.length_append, BigEndian.length_encode]

@[simp] theorem length_layout (header : PacketHeader) (payload : Bytes) :
    (layout header payload).length = 32 + payload.length := by
  simp only [layout, List.length_append, length_headerBytes, BigEndian.length_encode]
  omega

theorem take_layout (header : PacketHeader) (payload : Bytes) :
    (layout header payload).take kCrcOffset = headerBytes header :=
  List.take_left' (length_headerBytes header)

theorem drop_layout (header : PacketHeader) (payload : Bytes) :
    (layout header payload).drop kPacketHeaderSize = payload := by
  have hlen : (headerBytes header ++ BigEndian.encode header.crc32).length = kPacketHeaderSize := by
    simp only [List.length_append, length_headerBytes, BigEndian.length_encode, kPacketHeaderSize]
  rw [layout, ← List.append_assoc]
  exact List.drop_left' hlen

/-! ## Reading a layout -/

/-- The fields of a layout are read back from their offsets. -/
theorem read_layout (header : PacketHeader) (payload : Bytes) :
    readBigEndian 32 (layout header payload) kMagicOffset = some header.magic ∧
    readBigEndian 16 (layout header payload) kVersionOffset = some header.version ∧
    readBigEndian 16 (layout header payload) kMessageTypeOffset = some header.messageType.value ∧
    readBigEndian 64 (layout header payload) kSequenceNumberOffset = some header.sequenceNumber ∧
    readBigEndian 64 (layout header payload) kTimestampOffset = some header.sourceTimestampNs ∧
    readBigEndian 32 (layout header payload) kPayloadLengthOffset = some header.payloadLength ∧
    readBigEndian 32 (layout header payload) kCrcOffset = some header.crc32 := by
  simp only [layout, headerBytes, List.append_assoc]
  -- each read skips the scalars before its own
  have here {w : Nat} (hw : 8 ∣ w) (value : BitVec w) (rest : Bytes) :=
    readBigEndian_encode_append hw value rest
  refine ⟨here (by decide) _ _, ?_, ?_, ?_, ?_, ?_, ?_⟩
  · exact readBigEndian_skip 0 rfl (here (by decide) _ _)
  · exact readBigEndian_skip 2 rfl (readBigEndian_skip 0 rfl (here (by decide) _ _))
  · exact readBigEndian_skip 4 rfl (readBigEndian_skip 2 rfl (readBigEndian_skip 0 rfl
      (here (by decide) _ _)))
  · exact readBigEndian_skip 12 rfl (readBigEndian_skip 10 rfl (readBigEndian_skip 8 rfl
      (readBigEndian_skip 0 rfl (here (by decide) _ _))))
  · exact readBigEndian_skip 20 rfl (readBigEndian_skip 18 rfl (readBigEndian_skip 16 rfl
      (readBigEndian_skip 8 rfl (readBigEndian_skip 0 rfl (here (by decide) _ _)))))
  · exact readBigEndian_skip 24 rfl (readBigEndian_skip 22 rfl (readBigEndian_skip 20 rfl
      (readBigEndian_skip 12 rfl (readBigEndian_skip 4 rfl (readBigEndian_skip 0 rfl
        (here (by decide) _ _))))))

/-- The checks of `decodePacket` on the fields of a layout, in the source's order. -/
def checkFields (header : PacketHeader) (payload : Bytes) : DecodeResult :=
  if header.magic ≠ kPacketMagic then decodeFailure .kInvalidMagic
  else if header.version ≠ kProtocolVersion then decodeFailure .kUnsupportedVersion
  else if !isKnownMessageType header.messageType.value then decodeFailure .kUnknownMessageType
  else if header.payloadLength.toNat > kMaxPayloadSize then decodeFailure .kPayloadTooLarge
  else if payload.length < header.payloadLength.toNat then decodeFailure .kTruncatedPayload
  else if payload.length ≠ header.payloadLength.toNat then decodeFailure .kLengthMismatch
  else if packetCrc (headerBytes header) payload ≠ header.crc32 then decodeFailure .kCrcMismatch
  else { packet := some { header, payload }, error := .kNone }

/-- **On a layout the decoder only checks fields.** -/
theorem decodePacket_layout (header : PacketHeader) (payload : Bytes) :
    decodePacket (layout header payload) = some (checkFields header payload) := by
  obtain ⟨hmagic, hversion, htype, hseq, htime, hlen, hcrc⟩ := read_layout header payload
  have hsize : ¬ (layout header payload).length < kPacketHeaderSize := by
    rw [length_layout, kPacketHeaderSize]
    omega
  have hfirst : first (layout header payload) kCrcOffset = some (headerBytes header) := by
    rw [first_eq (by rw [length_layout, kCrcOffset]; omega), take_layout]
  have hsub : subspan (layout header payload) 32 = some payload := by
    have hdrop := drop_layout header payload
    rw [kPacketHeaderSize] at hdrop
    rw [subspan_eq (by rw [length_layout]; omega), hdrop]
  rw [decodePacket, if_neg hsize]
  simp only [hmagic, hversion, htype, hseq, htime, hlen, hcrc, hfirst, hsub, length_layout,
    kPacketHeaderSize, Option.bind_eq_bind, Option.bind_some, Nat.add_lt_add_iff_left,
    Nat.add_left_cancel_iff, ne_eq, checkFields]
  repeat' split
  all_goals rfl

/-- The checks end in one error or in the packet the fields spell. -/
theorem checkFields_cases (header : PacketHeader) (payload : Bytes) :
    (∃ error, error ≠ DecodeError.kNone ∧ checkFields header payload = decodeFailure error) ∨
      checkFields header payload = { packet := some { header, payload }, error := .kNone } := by
  unfold checkFields
  repeat' split
  all_goals first
    | exact .inr rfl
    | exact .inl ⟨_, by decide, rfl⟩

/-! ## Every byte string is a layout -/

/-- Bytes of at least a header's size are the layout of a header and a payload. -/
theorem exists_layout {bytes : Bytes} (h : kPacketHeaderSize ≤ bytes.length) :
    ∃ header payload, bytes = layout header payload := by
  rw [kPacketHeaderSize] at h
  refine ⟨{
    magic := fieldAt 32 bytes 0
    version := fieldAt 16 bytes 4
    messageType := ⟨fieldAt 16 bytes 6⟩
    sequenceNumber := fieldAt 64 bytes 8
    sourceTimestampNs := fieldAt 64 bytes 16
    payloadLength := fieldAt 32 bytes 24
    crc32 := fieldAt 32 bytes 28 }, bytes.drop 32, ?_⟩
  simp only [layout, headerBytes, List.append_assoc]
  rw [encode_fieldAt_append (by decide) bytes 28 (by omega) _ rfl,
    encode_fieldAt_append (by decide) bytes 24 (by omega) _ rfl,
    encode_fieldAt_append (by decide) bytes 16 (by omega) _ rfl,
    encode_fieldAt_append (by decide) bytes 8 (by omega) _ rfl,
    encode_fieldAt_append (by decide) bytes 6 (by omega) _ rfl,
    encode_fieldAt_append (by decide) bytes 4 (by omega) _ rfl,
    encode_fieldAt_append (by decide) bytes 0 (by omega) _ rfl, List.drop_zero]

/-- Shorter bytes are a truncated header. -/
theorem decodePacket_short {bytes : Bytes} (h : bytes.length < kPacketHeaderSize) :
    decodePacket bytes = some (decodeFailure .kTruncatedHeader) := if_pos h

/-- **Every byte string is answered**: no read falls outside it, and it is either accepted with no
error or refused with one. -/
theorem decodePacket_cases (bytes : Bytes) :
    (∃ packet, decodePacket bytes = some { packet := some packet, error := .kNone }) ∨
      Rejects bytes := by
  by_cases hsize : bytes.length < kPacketHeaderSize
  · exact .inr ⟨_, by decide, decodePacket_short hsize⟩
  · obtain ⟨header, payload, rfl⟩ := exists_layout (Nat.le_of_not_lt hsize)
    rcases checkFields_cases header payload with ⟨error, hne, hcheck⟩ | hcheck
    · exact .inr ⟨error, hne, by rw [decodePacket_layout, hcheck]⟩
    · exact .inl ⟨_, by rw [decodePacket_layout, hcheck]⟩

/-- An accepted packet comes with no error. -/
theorem decodesTo_iff_decodePacket {bytes : Bytes} {packet : Packet} :
    DecodesTo bytes packet ↔
      decodePacket bytes = some { packet := some packet, error := .kNone } := by
  constructor
  · rintro ⟨result, hdecode, hpacket⟩
    rcases decodePacket_cases bytes with ⟨other, hother⟩ | ⟨error, _, hrejected⟩
    · rw [hother] at hdecode
      cases hdecode
      cases hpacket
      exact hother
    · rw [hrejected] at hdecode
      cases hdecode
      cases hpacket
  · intro h
    exact ⟨_, h, rfl⟩

/-! ## What the encoder writes -/

/-- The header the encoder seals a payload with. -/
def sealedHeader (messageType : MessageType) (sequenceNumber sourceTimestampNs : BitVec 64)
    (payload : Bytes) : PacketHeader :=
  let header : PacketHeader :=
    { messageType, sequenceNumber, sourceTimestampNs,
      payloadLength := BitVec.ofNat 32 payload.length }
  { header with crc32 := packetCrc (headerBytes header) payload }

/-- **The encoder's buffer is the layout of the sealed header.** -/
theorem encodePacket_eq {messageType : MessageType} {payload : Bytes}
    (sequenceNumber sourceTimestampNs : BitVec 64)
    (known : isKnownMessageType messageType.value = true)
    (fits : payload.length ≤ kMaxPayloadSize) :
    encodePacket messageType sequenceNumber sourceTimestampNs payload =
      .ok (layout (sealedHeader messageType sequenceNumber sourceTimestampNs payload) payload) := by
  let header : PacketHeader :=
    { messageType, sequenceNumber, sourceTimestampNs,
      payloadLength := BitVec.ofNat 32 payload.length }
  -- the six scalars before the checksum fill the blank buffer from the left
  have filled : writeBigEndian (writeBigEndian (writeBigEndian (writeBigEndian (writeBigEndian
      (writeBigEndian (List.replicate (kPacketHeaderSize + payload.length) 0)
        kMagicOffset kPacketMagic) kVersionOffset kProtocolVersion)
        kMessageTypeOffset messageType.value) kSequenceNumberOffset sequenceNumber)
        kTimestampOffset sourceTimestampNs) kPayloadLengthOffset
        (BitVec.ofNat 32 payload.length) =
      headerBytes header ++ List.replicate (4 + payload.length) 0 := by
    rw [← List.nil_append (List.replicate (kPacketHeaderSize + payload.length) (0 : Byte)),
      writeBigEndian_blank kMagicOffset (28 + payload.length),
      writeBigEndian_blank kVersionOffset (26 + payload.length),
      writeBigEndian_blank kMessageTypeOffset (24 + payload.length),
      writeBigEndian_blank kSequenceNumberOffset (16 + payload.length),
      writeBigEndian_blank kTimestampOffset (8 + payload.length),
      writeBigEndian_blank kPayloadLengthOffset (4 + payload.length)]
    · simp only [headerBytes, header, List.nil_append, List.append_assoc]
    -- each scalar starts where the one before it ends, and leaves the blank that much shorter
    all_goals first
      | omega
      | rw [kPacketHeaderSize]; omega
      | simp only [List.length_append, List.length_nil, BigEndian.length_encode, kMagicOffset,
          kVersionOffset, kMessageTypeOffset, kSequenceNumberOffset, kTimestampOffset,
          kPayloadLengthOffset]
  -- the payload goes behind the four blank bytes of the checksum
  have copied : splice (headerBytes header ++ List.replicate (4 + payload.length) 0)
      kPacketHeaderSize payload = headerBytes header ++ List.replicate 4 0 ++ payload := by
    have hmiddle : splice (headerBytes header ++ List.replicate 4 0 ++
        List.replicate payload.length 0 ++ []) kPacketHeaderSize payload =
        headerBytes header ++ List.replicate 4 0 ++ payload ++ [] :=
      splice_middle _ _ _ _ (by simp only [List.length_append, length_headerBytes,
        List.length_replicate, kPacketHeaderSize]) List.length_replicate
    simp only [List.append_nil] at hmiddle
    rw [← List.replicate_append_replicate, ← List.append_assoc]
    exact hmiddle
  have hhead : (headerBytes header ++ List.replicate 4 (0 : Byte) ++ payload).take kCrcOffset =
      headerBytes header := by
    rw [List.append_assoc]
    exact List.take_left' (length_headerBytes header)
  have htail : (headerBytes header ++ List.replicate 4 (0 : Byte) ++ payload).drop
      kPacketHeaderSize = payload :=
    List.drop_left' (by simp only [List.length_append, length_headerBytes, List.length_replicate,
      kPacketHeaderSize])
  have checksum (crc : BitVec 32) :
      writeBigEndian (headerBytes header ++ List.replicate 4 (0 : Byte) ++ payload)
        kCrcOffset crc = headerBytes header ++ (BigEndian.encode crc ++ payload) := by
    rw [writeBigEndian_eq crc (by simp only [List.length_append, length_headerBytes,
      List.length_replicate, kCrcOffset]; omega), ← List.append_assoc]
    exact splice_middle _ _ _ _ (length_headerBytes header).symm
      (by rw [List.length_replicate, BigEndian.length_encode])
  rw [encodePacket]
  simp only [known, Bool.not_true, Bool.false_eq_true, ↓reduceIte, Nat.not_lt.mpr fits,
    filled, copied, hhead, htail, checksum]
  rfl

/-! ## Acceptance -/

/-- **The decoder accepts exactly the sealed layouts.** -/
theorem decodesTo_iff {bytes : Bytes} {packet : Packet} :
    DecodesTo bytes packet ↔
      isKnownMessageType packet.header.messageType.value = true ∧
      packet.payload.length ≤ kMaxPayloadSize ∧
      packet.header = sealedHeader packet.header.messageType packet.header.sequenceNumber
        packet.header.sourceTimestampNs packet.payload ∧
      bytes = layout packet.header packet.payload := by
  constructor
  · rintro ⟨result, hdecode, hpacket⟩
    by_cases hsize : bytes.length < kPacketHeaderSize
    · rw [decodePacket_short hsize] at hdecode
      cases hdecode
      cases hpacket
    · obtain ⟨header, payload, rfl⟩ := exists_layout (Nat.le_of_not_lt hsize)
      rw [decodePacket_layout] at hdecode
      cases hdecode
      unfold checkFields at hpacket
      split at hpacket
      · cases hpacket
      next hmagic =>
      split at hpacket
      · cases hpacket
      next hversion =>
      split at hpacket
      · cases hpacket
      next hknown =>
      split at hpacket
      · cases hpacket
      next hmax =>
      split at hpacket
      · cases hpacket
      split at hpacket
      · cases hpacket
      next hlen =>
      split at hpacket
      · cases hpacket
      next hcrc =>
      cases hpacket
      obtain ⟨magic, version, messageType, sequenceNumber, sourceTimestampNs, payloadLength,
        crc⟩ := header
      simp only [ne_eq, Decidable.not_not, Bool.not_eq_true, Bool.not_eq_false', Nat.not_lt,
        gt_iff_lt] at hmagic hversion hknown hmax hlen hcrc
      subst hmagic hversion
      have hlength : payloadLength = BitVec.ofNat 32 payload.length := by
        rw [hlen, BitVec.ofNat_toNat, BitVec.setWidth_eq]
      subst hlength
      refine ⟨hknown, hlen ▸ hmax, ?_, rfl⟩
      exact congrArg (PacketHeader.mk kPacketMagic kProtocolVersion messageType sequenceNumber
        sourceTimestampNs (BitVec.ofNat 32 payload.length)) hcrc.symm
  · rintro ⟨hknown, hmax, hheader, rfl⟩
    refine ⟨_, decodePacket_layout _ _, ?_⟩
    have hbound : packet.payload.length < 2 ^ 32 := by
      rw [kMaxPayloadSize] at hmax
      omega
    have hlen : packet.header.payloadLength.toNat = packet.payload.length := by
      rw [hheader]
      exact Nat.mod_eq_of_lt hbound
    have hmagic : packet.header.magic = kPacketMagic := by rw [hheader]; rfl
    have hversion : packet.header.version = kProtocolVersion := by rw [hheader]; rfl
    have hcrc : packetCrc (headerBytes packet.header) packet.payload = packet.header.crc32 := by
      rw [hheader]
      rfl
    simp only [checkFields, hmagic, hversion, hknown, hlen, hcrc, ne_eq, not_true_eq_false,
      Bool.not_true, Bool.false_eq_true, ↓reduceIte, Nat.not_lt.mpr hmax, Nat.lt_irrefl]

/-- Encoding what the decoder accepted gives the bytes back. -/
theorem encodePacket_of_decodesTo {bytes : Bytes} {packet : Packet}
    (h : DecodesTo bytes packet) :
    encodePacket packet.header.messageType packet.header.sequenceNumber
      packet.header.sourceTimestampNs packet.payload = .ok bytes := by
  obtain ⟨hknown, hmax, hheader, hbytes⟩ := decodesTo_iff.mp h
  rw [encodePacket_eq _ _ hknown hmax, ← hheader, ← hbytes]

/-- What the encoder wrote is accepted as the sealed packet. -/
theorem decodesTo_of_encodePacket {messageType : MessageType} {payload bytes : Bytes}
    {sequenceNumber sourceTimestampNs : BitVec 64}
    (h : encodePacket messageType sequenceNumber sourceTimestampNs payload = .ok bytes) :
    DecodesTo bytes
      ⟨sealedHeader messageType sequenceNumber sourceTimestampNs payload, payload⟩ := by
  by_cases hknown : isKnownMessageType messageType.value = true
  · by_cases hmax : payload.length ≤ kMaxPayloadSize
    · rw [encodePacket_eq _ _ hknown hmax] at h
      cases h
      exact decodesTo_iff.mpr ⟨hknown, hmax, rfl, rfl⟩
    · rw [encodePacket] at h
      simp [hknown, Nat.lt_of_not_le hmax] at h
  · rw [encodePacket] at h
    simp [hknown] at h

/-! ## The codec -/

/-- **The packet codec is a bijection onto the accepted byte strings.** What is encoded decodes to
exactly what went in; what is accepted encodes back to exactly its bytes; so the accepted strings
are the encoder's image, and no two of them decode to one packet. -/
theorem packetCodec_bijective :
    (∀ (messageType : MessageType) (sequenceNumber sourceTimestampNs : BitVec 64)
      (payload : Bytes), isKnownMessageType messageType.value = true →
      payload.length ≤ kMaxPayloadSize →
      ∃ bytes packet,
        encodePacket messageType sequenceNumber sourceTimestampNs payload = .ok bytes ∧
        decodePacket bytes = some { packet := some packet, error := .kNone } ∧
        packet.header.magic = kPacketMagic ∧
        packet.header.version = kProtocolVersion ∧
        packet.header.messageType = messageType ∧
        packet.header.sequenceNumber = sequenceNumber ∧
        packet.header.sourceTimestampNs = sourceTimestampNs ∧
        packet.header.payloadLength.toNat = payload.length ∧
        packet.payload = payload) ∧
    (∀ bytes packet, DecodesTo bytes packet →
      encodePacket packet.header.messageType packet.header.sequenceNumber
        packet.header.sourceTimestampNs packet.payload = .ok bytes) ∧
    (∀ bytes, (∃ packet, DecodesTo bytes packet) ↔
      ∃ messageType sequenceNumber sourceTimestampNs payload,
        encodePacket messageType sequenceNumber sourceTimestampNs payload = .ok bytes) ∧
    (∀ first second packet, DecodesTo first packet → DecodesTo second packet →
      first = second) := by
  refine ⟨?_, fun _ _ => encodePacket_of_decodesTo, fun bytes => ⟨?_, ?_⟩, ?_⟩
  · intro messageType sequenceNumber sourceTimestampNs payload known fits
    have hbound : payload.length < 2 ^ 32 := by
      rw [kMaxPayloadSize] at fits
      omega
    have hencode := encodePacket_eq sequenceNumber sourceTimestampNs known fits
    refine ⟨_, _, hencode, decodesTo_iff_decodePacket.mp (decodesTo_of_encodePacket hencode),
      rfl, rfl, rfl, rfl, rfl, ?_, rfl⟩
    exact Nat.mod_eq_of_lt hbound
  · rintro ⟨packet, h⟩
    exact ⟨_, _, _, _, encodePacket_of_decodesTo h⟩
  · rintro ⟨messageType, sequenceNumber, sourceTimestampNs, payload, h⟩
    exact ⟨_, decodesTo_of_encodePacket h⟩
  · intro first second packet hfirst hsecond
    have h := encodePacket_of_decodesTo hfirst
    rw [encodePacket_of_decodesTo hsecond] at h
    exact (Except.ok.inj h).symm

/-- A packet of three bytes goes there and back. -/
theorem packetCodec_bijective_imu :
    ∃ bytes packet, encodePacket .kImu 7 9 [1, 2, 3] = .ok bytes ∧
      decodePacket bytes = some { packet := some packet, error := .kNone } ∧
      packet.payload = [1, 2, 3] := by
  obtain ⟨bytes, packet, hencode, hdecode, _, _, _, _, _, _, hpayload⟩ :=
    packetCodec_bijective.1 .kImu 7 9 [1, 2, 3] (by decide) (by decide)
  exact ⟨bytes, packet, hencode, hdecode, hpayload⟩

end Driveflow.Protocol

import Driveflow.Laws.Protocol.PacketLayout

/-!
# Framing

A sealed header survives a cut behind it and whatever is appended, so the decoder still knows how
long the packet is: a cut packet is a truncated one, a packet with more behind it has the wrong
length, and no accepted packet starts another.
-/

namespace Driveflow.Protocol

open Library

/-! ## Cutting and extending a layout -/

theorem layout_append (header : PacketHeader) (payload rest : Bytes) :
    layout header (payload ++ rest) = layout header payload ++ rest := by
  rw [layout, layout, List.append_assoc, List.append_assoc]

theorem take_layout_payload (header : PacketHeader) (payload : Bytes) {cut : Nat} (h : 32 ≤ cut) :
    (layout header payload).take cut = layout header (payload.take (cut - 32)) := by
  have hhead : (layout header []).length = 32 := length_layout header []
  have hsplit (rest : Bytes) : layout header rest = layout header [] ++ rest :=
    layout_append header [] rest
  rw [hsplit payload, hsplit (payload.take _), List.take_append, hhead,
    List.take_of_length_le (by rw [hhead]; exact h)]

/-- The header the encoder would seal a payload of that length with. -/
structure Announces (header : PacketHeader) (size : Nat) : Prop where
  magic : header.magic = kPacketMagic
  version : header.version = kProtocolVersion
  known : isKnownMessageType header.messageType.value = true
  small : size ≤ kMaxPayloadSize
  length : header.payloadLength.toNat = size

/-- A payload shorter than its header announces is reported as truncated. -/
theorem Announces.checkFields_lt {header : PacketHeader} {size : Nat} {payload : Bytes}
    (announces : Announces header size) (h : payload.length < size) :
    checkFields header payload = decodeFailure .kTruncatedPayload := by
  rw [checkFields, if_neg (not_not.mpr announces.magic), if_neg (not_not.mpr announces.version),
    announces.known, Bool.not_true, if_neg Bool.false_ne_true, announces.length,
    if_neg (Nat.not_lt.mpr announces.small), if_pos h]

/-- A payload longer than its header announces is reported as a mismatch. -/
theorem Announces.checkFields_gt {header : PacketHeader} {size : Nat} {payload : Bytes}
    (announces : Announces header size) (h : size < payload.length) :
    checkFields header payload = decodeFailure .kLengthMismatch := by
  rw [checkFields, if_neg (not_not.mpr announces.magic), if_neg (not_not.mpr announces.version),
    announces.known, Bool.not_true, if_neg Bool.false_ne_true, announces.length,
    if_neg (Nat.not_lt.mpr announces.small), if_neg (Nat.lt_asymm h), if_pos (Nat.ne_of_gt h)]

/-- What the encoder returns is a layout whose header announces its payload. -/
theorem announces_of_encodePacket {messageType : MessageType} {payload bytes : Bytes}
    {sequenceNumber sourceTimestampNs : BitVec 64}
    (h : encodePacket messageType sequenceNumber sourceTimestampNs payload = .ok bytes) :
    ∃ header, Announces header payload.length ∧ bytes = layout header payload := by
  obtain ⟨hknown, hmax, _, hbytes⟩ := decodesTo_iff.mp (decodesTo_of_encodePacket h)
  have hbound : payload.length < 2 ^ 32 := Nat.lt_of_le_of_lt hmax (by decide)
  exact ⟨_, ⟨rfl, rfl, hknown, hmax, Nat.mod_eq_of_lt hbound⟩, hbytes⟩

/-! ## The two directions -/

section Encoded

variable {messageType : MessageType} {payload bytes : Bytes}
  {sequenceNumber sourceTimestampNs : BitVec 64}

/-- **A cut packet is truncated**: in its header, or in its payload. -/
theorem decodePacket_of_cut
    (h : encodePacket messageType sequenceNumber sourceTimestampNs payload = .ok bytes)
    {initial : Bytes} (cut : initial <+: bytes) (proper : initial ≠ bytes) :
    decodePacket initial = some (decodeFailure
      (if initial.length < 32 then .kTruncatedHeader else .kTruncatedPayload)) := by
  obtain ⟨header, announces, rfl⟩ := announces_of_encodePacket h
  split
  next hshort => exact decodePacket_short hshort
  next hlong =>
    have hheader : 32 ≤ initial.length := Nat.le_of_not_lt hlong
    have hshorter : initial.length < (layout header payload).length :=
      Nat.lt_of_le_of_ne cut.length_le fun hlength => proper (cut.eq_of_length hlength)
    rw [length_layout] at hshorter
    have hinitial : initial = layout header (payload.take (initial.length - 32)) :=
      (List.prefix_iff_eq_take.mp cut).trans (take_layout_payload header payload hheader)
    have htake : (payload.take (initial.length - 32)).length < payload.length := by
      rw [List.length_take]
      omega
    rw [hinitial, decodePacket_layout, announces.checkFields_lt htake]

/-- **A packet with more behind it has the wrong length.** -/
theorem decodePacket_of_extended
    (h : encodePacket messageType sequenceNumber sourceTimestampNs payload = .ok bytes)
    {rest : Bytes} (more : rest ≠ []) :
    decodePacket (bytes ++ rest) = some (decodeFailure .kLengthMismatch) := by
  obtain ⟨header, announces, rfl⟩ := announces_of_encodePacket h
  have hlonger : payload.length < (payload ++ rest).length := by
    rw [List.length_append]
    exact Nat.lt_add_of_pos_right (List.length_pos_iff.mpr more)
  rw [← layout_append, decodePacket_layout, announces.checkFields_gt hlonger]

end Encoded

/-- An accepted packet with more behind it is not accepted. -/
theorem not_decodesTo_append {bytes rest : Bytes} {packet other : Packet}
    (h : DecodesTo bytes packet) (more : rest ≠ []) : ¬ DecodesTo (bytes ++ rest) other := by
  rintro ⟨result, hdecode, hpacket⟩
  rw [decodePacket_of_extended (encodePacket_of_decodesTo h) more] at hdecode
  cases hdecode
  exact nomatch hpacket

/-- Nothing accepted is empty. -/
theorem DecodesTo.ne_nil {bytes : Bytes} {packet : Packet} (h : DecodesTo bytes packet) :
    bytes ≠ [] := by
  rintro rfl
  obtain ⟨result, hdecode, hpacket⟩ := h
  rw [decodePacket_short (by decide)] at hdecode
  cases hdecode
  exact nomatch hpacket

/-- **Packet framing is prefix-free.** -/
theorem packetFraming_prefixFree :
    (∀ messageType sequenceNumber sourceTimestampNs payload bytes,
      encodePacket messageType sequenceNumber sourceTimestampNs payload = .ok bytes →
      (∀ initial, initial <+: bytes → initial ≠ bytes → initial.length < 32 →
        decodePacket initial = some (decodeFailure .kTruncatedHeader)) ∧
      (∀ initial, initial <+: bytes → initial ≠ bytes → ¬ initial.length < 32 →
        decodePacket initial = some (decodeFailure .kTruncatedPayload)) ∧
      ∀ rest, rest ≠ [] →
        decodePacket (bytes ++ rest) = some (decodeFailure .kLengthMismatch)) ∧
    (∀ bytes other packet otherPacket, DecodesTo bytes packet → DecodesTo other otherPacket →
      bytes <+: other → bytes = other) ∧
    ∀ bytes other packet otherPacket, DecodesTo bytes packet → DecodesTo other otherPacket →
      ∀ whole, ¬ DecodesTo (bytes ++ other) whole := by
  refine ⟨fun messageType sequenceNumber sourceTimestampNs payload bytes h => ⟨?_, ?_, ?_⟩, ?_, ?_⟩
  · intro initial cut proper hshort
    rw [decodePacket_of_cut h cut proper, if_pos hshort]
  · intro initial cut proper hlong
    rw [decodePacket_of_cut h cut proper, if_neg hlong]
  · intro rest more
    exact decodePacket_of_extended h more
  · rintro bytes _ packet otherPacket h hother ⟨rest, rfl⟩
    by_cases more : rest = []
    · rw [more, List.append_nil]
    · exact absurd hother (not_decodesTo_append h more)
  · intro bytes other packet otherPacket h hother whole
    exact not_decodesTo_append h hother.ne_nil

/-- A packet cut behind its first payload byte, and with a zero behind it. -/
theorem packetFraming_prefixFree_imu :
    ∃ bytes, encodePacket .kImu 7 9 [1, 2, 3] = .ok bytes ∧
      decodePacket (bytes.take 33) = some (decodeFailure .kTruncatedPayload) ∧
      decodePacket (bytes ++ [0]) = some (decodeFailure .kLengthMismatch) := by
  have hencode : encodePacket .kImu 7 9 [1, 2, 3] =
      .ok (layout (sealedHeader .kImu 7 9 [1, 2, 3]) [1, 2, 3]) :=
    encodePacket_eq 7 9 rfl (by decide)
  obtain ⟨_, hcut, hmore⟩ := packetFraming_prefixFree.1 _ _ _ _ _ hencode
  have hlength : (layout (sealedHeader .kImu 7 9 [1, 2, 3]) [1, 2, 3]).length = 35 :=
    length_layout _ _
  refine ⟨_, hencode, hcut _ (List.take_prefix _ _) (fun heq => ?_) ?_, hmore [0] (by decide)⟩
  · have hshort := congrArg List.length heq
    rw [List.length_take, hlength] at hshort
    exact absurd hshort (by decide)
  · rw [List.length_take, hlength]
    decide

end Driveflow.Protocol

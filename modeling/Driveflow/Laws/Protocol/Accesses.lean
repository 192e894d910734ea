import Driveflow.Laws.Protocol.PayloadLayout
import Driveflow.Protocol.Accesses

/-!
# What the decoders access

The log changes nothing (`value_accessPacket`, `value_accessSensorPayload`), and every access of it
is inside the bytes or a size of 32 bits: each read stands behind the size check that covers it, and
each sum behind its limit.
-/

namespace Driveflow.Protocol

open Library Wire

/-! ## The log changes nothing -/

/-- The logged reader reads what `read_big_endian` reads. -/
theorem value_accessBigEndian (w : Nat) (input : Bytes) (offset : Nat) :
    (accessBigEndian w input offset).value = readBigEndian w input offset := by
  rw [accessBigEndian, Logged.value_foldlM, readBigEndian]
  simp only [accessByte, Logged.value_bind, Logged.value_event, Logged.value_ofOption,
    Logged.value_pure]
  rfl

/-- The logged reader reads what `read_float` reads. -/
theorem value_accessFloat (width fractionBits : Nat) (input : Bytes) (offset : Nat) :
    (accessFloat width fractionBits input offset).value =
      readFloat width fractionBits input offset := by
  rw [accessFloat, Logged.value_bind, value_accessBigEndian, readFloat]
  cases readBigEndian width input offset with
  | none => rfl
  | some bits => rfl

/-- The logged decoder returns what `decode_packet` returns. -/
theorem value_accessPacket (bytes : Bytes) : (accessPacket bytes).value = decodePacket bytes := by
  simp only [accessPacket, decodePacket, Logged.value_ite, Logged.value_bind, Logged.value_pure,
    value_accessBigEndian]
  rfl

/-- The logged decoder returns what `decode_sensor_payload` returns. -/
theorem value_accessSensorPayload (type : MessageType) (bytes : Bytes) :
    (accessSensorPayload type bytes).value = decodeSensorPayload type bytes := by
  have himu : (accessImu bytes).value = decodeImu bytes := by
    simp only [accessImu, decodeImu, Logged.value_ite, Logged.value_bind, Logged.value_pure,
      value_accessFloat]
  have hgnss : (accessGnss bytes).value = decodeGnss bytes := by
    simp only [accessGnss, decodeGnss, Logged.value_ite, Logged.value_bind, Logged.value_pure,
      value_accessFloat]
  have hcamera : (accessCamera bytes).value = decodeCamera bytes := by
    simp only [accessCamera, decodeCamera, Logged.value_ite, Logged.value_bind, Logged.value_pure,
      value_accessBigEndian]
    rfl
  simp only [accessSensorPayload, decodeSensorPayload, Logged.value_ite, himu, hgnss, hcamera,
    Logged.value_pure]

/-! ## The accesses -/

/-- Every read is inside the bytes, and every size one of 32 bits. -/
abbrev Safe {Value : Type} (bytes : Bytes) (run : Logged Access Value) : Prop :=
  run.Only (Access.Allowed bytes.length)

section Safe

variable {bytes : Bytes}

/-- A field inside the bytes is read inside them. -/
theorem safe_accessBigEndian {w offset : Nat} (inside : offset + w / 8 ≤ bytes.length) :
    Safe bytes (accessBigEndian w bytes offset) := by
  refine Logged.only_foldlM (fun index hindex value => ?_) 0
  have hindex := List.mem_range.mp hindex
  refine Logged.Only.bind (Logged.Only.bind (Logged.only_event ?_) fun _ _ => Logged.only_ofOption _)
    fun byte _ => Logged.only_pure _
  change offset + index < bytes.length
  omega

/-- A floating-point field is read as the integer of its width. -/
theorem safe_accessFloat {width fractionBits offset : Nat}
    (inside : offset + width / 8 ≤ bytes.length) :
    Safe bytes (accessFloat width fractionBits bytes offset) :=
  (safe_accessBigEndian inside).bind fun _ _ => Logged.only_pure _

/-- `first` is asked for no more than there is. -/
theorem safe_accessFirst {count : Nat} (inside : count ≤ bytes.length) :
    Safe bytes (accessFirst bytes count) := by
  intro access haccess
  obtain ⟨index, hindex, rfl⟩ := List.mem_map.mp haccess
  exact Nat.lt_of_lt_of_le (List.mem_range.mp hindex) inside

/-- `subspan` begins no further than the end. -/
theorem safe_accessSubspan {offset : Nat} (inside : offset ≤ bytes.length) :
    Safe bytes (accessSubspan bytes offset) := by
  intro access haccess
  obtain ⟨index, hindex, rfl⟩ := List.mem_map.mp haccess
  have hrange := (List.mem_range'_1.mp hindex).2
  change index < bytes.length
  omega

/-- A sum of sizes below `2 ^ 32` does not wrap. -/
theorem safe_addSizes {fixed declared : Nat} (h : fixed + declared < 2 ^ 32) :
    Safe bytes (addSizes fixed declared) := by
  have hallowed : (Access.size (fixed + declared)).Allowed bytes.length := h
  exact (Logged.only_event hallowed).bind fun _ _ => Logged.only_pure _

/-- The header is read once the bytes hold one; its length is added up once it is known to be small,
and the payload is read once the bytes are known to hold it. -/
theorem safe_accessPacket (bytes : Bytes) : Safe bytes (accessPacket bytes) := by
  unfold accessPacket
  split
  · exact Logged.only_pure _
  next hheader =>
    have hlength : 32 ≤ bytes.length := Nat.le_of_not_lt hheader
    have hread {w offset : Nat} (h : offset + w / 8 ≤ 32) :
        Safe bytes (accessBigEndian w bytes offset) := safe_accessBigEndian (h.trans hlength)
    refine (hread (by decide)).bind fun magic _ => ?_
    refine (hread (by decide)).bind fun version _ => ?_
    refine (hread (by decide)).bind fun rawType _ => ?_
    refine (hread (by decide)).bind fun sequenceNumber _ => ?_
    refine (hread (by decide)).bind fun sourceTimestampNs _ => ?_
    refine (hread (by decide)).bind fun payloadLength _ => ?_
    refine (hread (by decide)).bind fun crc _ => ?_
    dsimp only
    split
    · exact Logged.only_pure _
    split
    · exact Logged.only_pure _
    split
    · exact Logged.only_pure _
    split
    · exact Logged.only_pure _
    next hsmall =>
      have hpayload : payloadLength.toNat ≤ 65475 := Nat.le_of_not_lt hsmall
      have hsum : kPacketHeaderSize + payloadLength.toNat < 2 ^ 32 := by
        change 32 + payloadLength.toNat < 2 ^ 32
        omega
      refine (safe_addSizes hsum).bind fun expectedSize _ => ?_
      split
      · exact Logged.only_pure _
      split
      · exact Logged.only_pure _
      refine (safe_accessFirst (Nat.le_trans (by decide) hlength)).bind fun headerWithoutCrc _ => ?_
      refine (safe_accessSubspan hlength).bind fun payload _ => ?_
      split
      · exact Logged.only_pure _
      · exact Logged.only_pure _

/-- The size check covers every field of an IMU payload. -/
theorem safe_accessImu (bytes : Bytes) : Safe bytes (accessImu bytes) := by
  unfold accessImu
  split
  · exact Logged.only_pure _
  next hsize =>
    have hlength : bytes.length = 24 := not_not.mp hsize
    have hread {offset : Nat} (h : offset + 4 ≤ 24) :
        Safe bytes (accessFloat 32 23 bytes offset) := safe_accessFloat (hlength ▸ h)
    refine (hread (by decide)).bind fun accelerationX _ => ?_
    refine (hread (by decide)).bind fun accelerationY _ => ?_
    refine (hread (by decide)).bind fun accelerationZ _ => ?_
    refine (hread (by decide)).bind fun angularVelocityX _ => ?_
    refine (hread (by decide)).bind fun angularVelocityY _ => ?_
    refine (hread (by decide)).bind fun angularVelocityZ _ => ?_
    exact Logged.only_pure _

/-- The size check covers every field of a GNSS payload. -/
theorem safe_accessGnss (bytes : Bytes) : Safe bytes (accessGnss bytes) := by
  unfold accessGnss
  split
  · exact Logged.only_pure _
  next hsize =>
    have hlength : bytes.length = 32 := not_not.mp hsize
    have hread {width fractionBits offset : Nat} (h : offset + width / 8 ≤ 32) :
        Safe bytes (accessFloat width fractionBits bytes offset) := safe_accessFloat (hlength ▸ h)
    refine (hread (by decide)).bind fun latitudeDeg _ => ?_
    refine (hread (by decide)).bind fun longitudeDeg _ => ?_
    refine (hread (by decide)).bind fun altitudeM _ => ?_
    refine (hread (by decide)).bind fun horizontalAccuracyM _ => ?_
    refine (hread (by decide)).bind fun verticalAccuracyM _ => ?_
    exact Logged.only_pure _

/-- The fixed part is checked before it is read, and the extra data before they are copied. -/
theorem safe_accessCamera (bytes : Bytes) : Safe bytes (accessCamera bytes) := by
  unfold accessCamera
  split
  · exact Logged.only_pure _
  next hfixed =>
    have hlength : 24 ≤ bytes.length := Nat.le_of_not_lt hfixed
    have hread {w offset : Nat} (h : offset + w / 8 ≤ 24) :
        Safe bytes (accessBigEndian w bytes offset) := safe_accessBigEndian (h.trans hlength)
    refine (hread (by decide)).bind fun rawExtraSize _ => ?_
    dsimp only
    split
    · exact Logged.only_pure _
    next hsmall =>
      have hextra : rawExtraSize.toNat ≤ 65451 := Nat.le_of_not_lt hsmall
      have hsum : kCameraMetaFixedPayloadSize + rawExtraSize.toNat < 2 ^ 32 := by
        change 24 + rawExtraSize.toNat < 2 ^ 32
        omega
      refine (safe_addSizes hsum).bind fun expectedSize _ => ?_
      split
      · exact Logged.only_pure _
      refine (hread (by decide)).bind fun frameId _ => ?_
      refine (hread (by decide)).bind fun width _ => ?_
      refine (hread (by decide)).bind fun height _ => ?_
      refine (hread (by decide)).bind fun exposureTimeUs _ => ?_
      refine (safe_accessSubspan hlength).bind fun extraBytes _ => ?_
      exact Logged.only_pure _

/-- So no decoder of any type reads outside its payload. -/
theorem safe_accessSensorPayload (type : MessageType) (bytes : Bytes) :
    Safe bytes (accessSensorPayload type bytes) := by
  unfold accessSensorPayload
  split
  · exact safe_accessImu bytes
  split
  · exact safe_accessGnss bytes
  split
  · exact safe_accessCamera bytes
  · exact Logged.only_pure _

end Safe

/-- **The decoders are safe on arbitrary bytes.** They answer, so they never read outside; every
index they read is inside the bytes, every size they add up is one of 32 bits, and a payload comes
without an error. -/
theorem decoders_safe (bytes : Bytes) :
    (∃ result, decodePacket bytes = some result ∧ (accessPacket bytes).value = some result ∧
      (∀ access ∈ (accessPacket bytes).log, access.Allowed bytes.length) ∧
      (result.packet ≠ none → result.error = .kNone)) ∧
    ∀ type : MessageType, ∃ result, decodeSensorPayload type bytes = some result ∧
      (accessSensorPayload type bytes).value = some result ∧
      (∀ access ∈ (accessSensorPayload type bytes).log, access.Allowed bytes.length) ∧
      (result.payload ≠ none → result.error = .kNone) := by
  constructor
  · have hsafe := safe_accessPacket bytes
    rcases decodePacket_cases bytes with ⟨packet, haccepted⟩ | ⟨error, _, hrejected⟩
    · exact ⟨_, haccepted, (value_accessPacket bytes).trans haccepted, hsafe, fun _ => rfl⟩
    · exact ⟨_, hrejected, (value_accessPacket bytes).trans hrejected, hsafe,
        fun h => absurd rfl h⟩
  · intro type
    obtain ⟨result, hdecode, hpayload⟩ := decodeSensorPayload_answers type bytes
    refine ⟨result, hdecode, (value_accessSensorPayload type bytes).trans hdecode,
      safe_accessSensorPayload type bytes, fun hsome => ?_⟩
    by_contra herror
    exact hsome (hpayload.mpr herror)

end Driveflow.Protocol

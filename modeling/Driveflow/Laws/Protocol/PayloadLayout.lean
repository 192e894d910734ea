import Driveflow.Laws.Protocol.PacketLayout
import Driveflow.Protocol.SensorPayload

/-!
# The payload layouts

The same two normal forms as for the envelope, one pair for each sensor: what the encoder writes
for a valid value is that value's layout, and every byte string of the right size is the layout of
some value, on which the decoder does nothing but validate. The camera's layout carries its
declared length apart from its tail, since the decoder is handed both.

`Valid` states what the validator accepts in the format's own terms, so that acceptance can be read
without its order of checks.
-/

namespace Driveflow.Protocol

open Library Wire

/-! ## What the validator accepts -/

def Vector3f.Finite (v : Vector3f) : Prop :=
  v.x.isFinite = true ∧ v.y.isFinite = true ∧ v.z.isFinite = true

/-- A finite number between `-bound` and `bound`, both included. -/
def WithinDegrees (x : Binary64) (bound : Int) : Prop :=
  x.isFinite = true ∧ -bound * x.unitsPerOne ≤ x.scaled ∧ x.scaled ≤ bound * x.unitsPerOne

/-- A finite number that is not below zero; negative zero is not below zero. -/
def NonNegative (x : Binary32) : Prop := x.isFinite = true ∧ 0 ≤ x.scaled

/-- A payload the validator accepts. -/
def SensorPayload.Valid : SensorPayload → Prop
  | .imuSample sample => sample.linearAccelerationMps2.Finite ∧ sample.angularVelocityRps.Finite
  | .gnssFix fix => WithinDegrees fix.latitudeDeg 90 ∧ WithinDegrees fix.longitudeDeg 180 ∧
      fix.altitudeM.isFinite = true ∧ NonNegative fix.horizontalAccuracyM ∧
      NonNegative fix.verticalAccuracyM
  | .cameraMeta metadata => metadata.width ≠ 0#32 ∧ metadata.height ≠ 0#32 ∧
      metadata.extraData.length ≤ kMaxCameraExtraDataSize

/-- `validate` of whichever alternative the variant holds. -/
def SensorPayload.validate : SensorPayload → SensorPayloadError
  | .imuSample sample => sample.validate
  | .gnssFix fix => fix.validate
  | .cameraMeta metadata => metadata.validate

/-- The range checks of a coordinate are its range. -/
private theorem withinDegrees_iff {x low high : Binary64} {bound : Int}
    (hlow : low.isFinite = true ∧ low.scaled = -bound * x.unitsPerOne)
    (hhigh : high.isFinite = true ∧ high.scaled = bound * x.unitsPerOne)
    (hx : x.isFinite = true) :
    (x.lt low = false ∧ high.lt x = false) ↔ WithinDegrees x bound := by
  rw [← Bool.not_eq_true, ← Bool.not_eq_true, Binary.lt_eq_true_iff hx hlow.1,
    Binary.lt_eq_true_iff hhigh.1 hx, hlow.2, hhigh.2, not_lt, not_lt]
  exact ⟨fun h => ⟨hx, h⟩, fun h => h.2⟩

/-- A finite value is non-negative exactly if it does not compare below zero. -/
private theorem nonNegative_iff {x : Binary32} (hx : x.isFinite = true) :
    x.lt zeroF = false ↔ NonNegative x := by
  have hzero : zeroF.isFinite = true ∧ zeroF.scaled = 0 := by decide
  rw [← Bool.not_eq_true, Binary.lt_eq_true_iff hx hzero.1, hzero.2, not_lt]
  exact ⟨fun h => ⟨hx, h⟩, fun h => h.2⟩

/-- The bounds of the range checks, in units of the format. -/
private theorem bounds (x : Binary64) :
    (minusNinety.isFinite = true ∧ minusNinety.scaled = -90 * x.unitsPerOne) ∧
    (ninety.isFinite = true ∧ ninety.scaled = 90 * x.unitsPerOne) ∧
    (minusOneEighty.isFinite = true ∧ minusOneEighty.scaled = -180 * x.unitsPerOne) ∧
    (oneEighty.isFinite = true ∧ oneEighty.scaled = 180 * x.unitsPerOne) := by
  have hunits : x.unitsPerOne = ninety.unitsPerOne := rfl
  rw [hunits]
  decide +kernel

/-- **The validator accepts exactly the valid payloads.** -/
theorem SensorPayload.validate_iff (payload : SensorPayload) :
    payload.validate = .kNone ↔ payload.Valid := by
  cases payload with
  | imuSample sample =>
    change sample.validate = .kNone ↔ Vector3f.Finite _ ∧ Vector3f.Finite _
    unfold ImuSample.validate Vector3f.Finite
    dsimp only
    split
    next h =>
      simp only [reduceCtorEq, false_iff]
      simp only [Bool.or_eq_true, Bool.not_eq_true'] at h
      rintro ⟨⟨hax, hay, haz⟩, hwx, hwy, hwz⟩
      simp only [hax, hay, haz, hwx, hwy, hwz, Bool.true_eq_false, or_self] at h
    next h =>
      simp only [Bool.or_eq_true, Bool.not_eq_true', not_or, Bool.not_eq_false] at h
      obtain ⟨⟨⟨⟨⟨hax, hay⟩, haz⟩, hwx⟩, hwy⟩, hwz⟩ := h
      exact ⟨fun _ => ⟨⟨hax, hay, haz⟩, hwx, hwy, hwz⟩, fun _ => rfl⟩
  | gnssFix fix =>
    change fix.validate = .kNone ↔ WithinDegrees _ 90 ∧ WithinDegrees _ 180 ∧ _ ∧ NonNegative _ ∧
      NonNegative _
    unfold GnssFix.validate
    split
    next h =>
      simp only [reduceCtorEq, false_iff]
      simp only [Bool.or_eq_true, Bool.not_eq_true'] at h
      rintro ⟨hlat, hlon, halt, hhor, hver⟩
      simp only [hlat.1, hlon.1, halt, hhor.1, hver.1, Bool.true_eq_false, or_self] at h
    next h =>
      simp only [Bool.or_eq_true, Bool.not_eq_true', not_or, Bool.not_eq_false] at h
      obtain ⟨⟨⟨⟨hlat, hlon⟩, halt⟩, hhor⟩, hver⟩ := h
      obtain ⟨hminus90, h90, -, -⟩ := bounds fix.latitudeDeg
      obtain ⟨-, -, hminus180, h180⟩ := bounds fix.longitudeDeg
      rw [← withinDegrees_iff hminus90 h90 hlat, ← withinDegrees_iff hminus180 h180 hlon,
        ← nonNegative_iff hhor, ← nonNegative_iff hver]
      split
      next hrange =>
        simp only [reduceCtorEq, false_iff]
        rintro ⟨⟨hlow, hhigh⟩, ⟨hwest, heast⟩, _, hh, hv⟩
        simp only [hlow, hhigh, hwest, heast, hh, hv, Bool.or_self, Bool.false_eq_true] at hrange
      next hrange =>
        simp only [Bool.or_eq_true, not_or, Bool.not_eq_true] at hrange
        obtain ⟨⟨⟨⟨⟨hlow, hhigh⟩, hwest⟩, heast⟩, hh⟩, hv⟩ := hrange
        exact ⟨fun _ => ⟨⟨hlow, hhigh⟩, ⟨hwest, heast⟩, halt, hh, hv⟩, fun _ => rfl⟩
  | cameraMeta metadata =>
    change metadata.validate = .kNone ↔ _ ≠ 0#32 ∧ _ ≠ 0#32 ∧ _ ≤ kMaxCameraExtraDataSize
    unfold CameraMeta.validate
    split
    next h =>
      simp only [reduceCtorEq, false_iff]
      rintro ⟨hwidth, hheight, hextra⟩
      rcases h with h | h | h
      · exact hwidth h
      · exact hheight h
      · exact absurd hextra (Nat.not_le_of_gt h)
    next h =>
      simp only [not_or, gt_iff_lt, Nat.not_lt] at h
      exact ⟨fun _ => h, fun _ => rfl⟩

/-! ## The inertial layout -/

/-- The six numbers of an inertial sample, one after the other. -/
def imuLayout (sample : ImuSample) : Bytes :=
  BigEndian.encode sample.linearAccelerationMps2.x.bits ++
    (BigEndian.encode sample.linearAccelerationMps2.y.bits ++
      (BigEndian.encode sample.linearAccelerationMps2.z.bits ++
        (BigEndian.encode sample.angularVelocityRps.x.bits ++
          (BigEndian.encode sample.angularVelocityRps.y.bits ++
            (BigEndian.encode sample.angularVelocityRps.z.bits ++ [])))))

/-- An IMU payload has the size the decoder asks for. -/
theorem length_imuLayout (sample : ImuSample) : (imuLayout sample).length = kImuPayloadSize := by
  simp only [imuLayout, List.length_append, BigEndian.length_encode, List.length_nil,
    kImuPayloadSize]

/-- A read number is the one whose bits are read. -/
private theorem readFloat_eq {width fractionBits offset : Nat} {bytes : Bytes}
    {value : Binary width fractionBits}
    (h : readBigEndian width bytes offset = some value.bits) :
    readFloat width fractionBits bytes offset = some value := by
  rw [readFloat, h, Option.map_some]

/-- Decoding a laid-out sample gives it back if it is valid, and its error otherwise. -/
theorem decodeImu_layout (sample : ImuSample) :
    decodeImu (imuLayout sample) =
      some (if sample.validate = .kNone then payloadSuccess (.imuSample sample)
        else payloadFailure sample.validate) := by
  have here {w : Nat} (hw : 8 ∣ w) (value : BitVec w) (rest : Bytes) :=
    readBigEndian_encode_append hw value rest
  have hax : readFloat 32 23 (imuLayout sample) kImuAccelerationXOffset =
      some sample.linearAccelerationMps2.x := readFloat_eq (here (by decide) _ _)
  have hay : readFloat 32 23 (imuLayout sample) kImuAccelerationYOffset =
      some sample.linearAccelerationMps2.y :=
    readFloat_eq (readBigEndian_skip 0 rfl (here (by decide) _ _))
  have haz : readFloat 32 23 (imuLayout sample) kImuAccelerationZOffset =
      some sample.linearAccelerationMps2.z :=
    readFloat_eq (readBigEndian_skip 4 rfl (readBigEndian_skip 0 rfl (here (by decide) _ _)))
  have hwx : readFloat 32 23 (imuLayout sample) kImuAngularVelocityXOffset =
      some sample.angularVelocityRps.x :=
    readFloat_eq (readBigEndian_skip 8 rfl (readBigEndian_skip 4 rfl (readBigEndian_skip 0 rfl
      (here (by decide) _ _))))
  have hwy : readFloat 32 23 (imuLayout sample) kImuAngularVelocityYOffset =
      some sample.angularVelocityRps.y :=
    readFloat_eq (readBigEndian_skip 12 rfl (readBigEndian_skip 8 rfl (readBigEndian_skip 4 rfl
      (readBigEndian_skip 0 rfl (here (by decide) _ _)))))
  have hwz : readFloat 32 23 (imuLayout sample) kImuAngularVelocityZOffset =
      some sample.angularVelocityRps.z :=
    readFloat_eq (readBigEndian_skip 16 rfl (readBigEndian_skip 12 rfl (readBigEndian_skip 8 rfl
      (readBigEndian_skip 4 rfl (readBigEndian_skip 0 rfl (here (by decide) _ _))))))
  rw [decodeImu, if_neg (not_not.mpr (length_imuLayout sample))]
  simp only [hax, hay, haz, hwx, hwy, hwz, Option.bind_eq_bind, Option.bind_some]

/-- Every payload of the size is the layout of some sample. -/
theorem exists_imuLayout {bytes : Bytes} (h : bytes.length = kImuPayloadSize) :
    ∃ sample, bytes = imuLayout sample := by
  rw [kImuPayloadSize] at h
  refine ⟨{
    linearAccelerationMps2 :=
      { x := ⟨fieldAt 32 bytes 0⟩, y := ⟨fieldAt 32 bytes 4⟩, z := ⟨fieldAt 32 bytes 8⟩ }
    angularVelocityRps :=
      { x := ⟨fieldAt 32 bytes 12⟩, y := ⟨fieldAt 32 bytes 16⟩, z := ⟨fieldAt 32 bytes 20⟩ } }, ?_⟩
  have hend : [] = bytes.drop 24 := (List.drop_of_length_le (Nat.le_of_eq h)).symm
  simp only [imuLayout]
  rw [encode_fieldAt_append (by decide) bytes 20 (by omega) _ hend,
    encode_fieldAt_append (by decide) bytes 16 (by omega) _ rfl,
    encode_fieldAt_append (by decide) bytes 12 (by omega) _ rfl,
    encode_fieldAt_append (by decide) bytes 8 (by omega) _ rfl,
    encode_fieldAt_append (by decide) bytes 4 (by omega) _ rfl,
    encode_fieldAt_append (by decide) bytes 0 (by omega) _ rfl, List.drop_zero]

/-- A valid sample is encoded by its layout. -/
theorem ImuSample.encode_eq {sample : ImuSample} (valid : sample.validate = .kNone) :
    sample.encode = .ok (imuLayout sample) := by
  unfold ImuSample.encode requireValid
  simp only [valid, ne_eq, not_true_eq_false, ↓reduceIte, writeFloat]
  change Except.ok _ = Except.ok _
  rw [← List.nil_append (List.replicate kImuPayloadSize (0 : Byte)),
    writeBigEndian_blank kImuAccelerationXOffset 20,
    writeBigEndian_blank kImuAccelerationYOffset 16,
    writeBigEndian_blank kImuAccelerationZOffset 12,
    writeBigEndian_blank kImuAngularVelocityXOffset 8,
    writeBigEndian_blank kImuAngularVelocityYOffset 4,
    writeBigEndian_blank kImuAngularVelocityZOffset 0]
  · simp only [imuLayout, List.nil_append, List.append_assoc, List.replicate_zero]
  all_goals rfl

/-! ## The satellite layout -/

/-- The three wide and two narrow numbers of a fix, one after the other. -/
def gnssLayout (fix : GnssFix) : Bytes :=
  BigEndian.encode fix.latitudeDeg.bits ++
    (BigEndian.encode fix.longitudeDeg.bits ++
      (BigEndian.encode fix.altitudeM.bits ++
        (BigEndian.encode fix.horizontalAccuracyM.bits ++
          (BigEndian.encode fix.verticalAccuracyM.bits ++ []))))

/-- A GNSS payload has the size the decoder asks for. -/
theorem length_gnssLayout (fix : GnssFix) : (gnssLayout fix).length = kGnssPayloadSize := by
  simp only [gnssLayout, List.length_append, BigEndian.length_encode, List.length_nil,
    kGnssPayloadSize]

/-- Decoding a laid-out fix gives it back if it is valid, and its error otherwise. -/
theorem decodeGnss_layout (fix : GnssFix) :
    decodeGnss (gnssLayout fix) =
      some (if fix.validate = .kNone then payloadSuccess (.gnssFix fix)
        else payloadFailure fix.validate) := by
  have here {w : Nat} (hw : 8 ∣ w) (value : BitVec w) (rest : Bytes) :=
    readBigEndian_encode_append hw value rest
  have hlat : readFloat 64 52 (gnssLayout fix) kGnssLatitudeOffset = some fix.latitudeDeg :=
    readFloat_eq (here (by decide) _ _)
  have hlon : readFloat 64 52 (gnssLayout fix) kGnssLongitudeOffset = some fix.longitudeDeg :=
    readFloat_eq (readBigEndian_skip 0 rfl (here (by decide) _ _))
  have halt : readFloat 64 52 (gnssLayout fix) kGnssAltitudeOffset = some fix.altitudeM :=
    readFloat_eq (readBigEndian_skip 8 rfl (readBigEndian_skip 0 rfl (here (by decide) _ _)))
  have hhor : readFloat 32 23 (gnssLayout fix) kGnssHorizontalAccuracyOffset =
      some fix.horizontalAccuracyM :=
    readFloat_eq (readBigEndian_skip 16 rfl (readBigEndian_skip 8 rfl (readBigEndian_skip 0 rfl
      (here (by decide) _ _))))
  have hver : readFloat 32 23 (gnssLayout fix) kGnssVerticalAccuracyOffset =
      some fix.verticalAccuracyM :=
    readFloat_eq (readBigEndian_skip 20 rfl (readBigEndian_skip 12 rfl (readBigEndian_skip 4 rfl
      (readBigEndian_skip 0 rfl (here (by decide) _ _)))))
  rw [decodeGnss, if_neg (not_not.mpr (length_gnssLayout fix))]
  simp only [hlat, hlon, halt, hhor, hver, Option.bind_eq_bind, Option.bind_some]

/-- Every payload of the size is the layout of some fix. -/
theorem exists_gnssLayout {bytes : Bytes} (h : bytes.length = kGnssPayloadSize) :
    ∃ fix, bytes = gnssLayout fix := by
  rw [kGnssPayloadSize] at h
  refine ⟨{
    latitudeDeg := ⟨fieldAt 64 bytes 0⟩
    longitudeDeg := ⟨fieldAt 64 bytes 8⟩
    altitudeM := ⟨fieldAt 64 bytes 16⟩
    horizontalAccuracyM := ⟨fieldAt 32 bytes 24⟩
    verticalAccuracyM := ⟨fieldAt 32 bytes 28⟩ }, ?_⟩
  have hend : [] = bytes.drop 32 := (List.drop_of_length_le (Nat.le_of_eq h)).symm
  simp only [gnssLayout]
  rw [encode_fieldAt_append (by decide) bytes 28 (by omega) _ hend,
    encode_fieldAt_append (by decide) bytes 24 (by omega) _ rfl,
    encode_fieldAt_append (by decide) bytes 16 (by omega) _ rfl,
    encode_fieldAt_append (by decide) bytes 8 (by omega) _ rfl,
    encode_fieldAt_append (by decide) bytes 0 (by omega) _ rfl, List.drop_zero]

/-- A valid fix is encoded by its layout. -/
theorem GnssFix.encode_eq {fix : GnssFix} (valid : fix.validate = .kNone) :
    fix.encode = .ok (gnssLayout fix) := by
  unfold GnssFix.encode requireValid
  simp only [valid, ne_eq, not_true_eq_false, ↓reduceIte, writeFloat]
  change Except.ok _ = Except.ok _
  rw [← List.nil_append (List.replicate kGnssPayloadSize (0 : Byte)),
    writeBigEndian_blank kGnssLatitudeOffset 24,
    writeBigEndian_blank kGnssLongitudeOffset 16,
    writeBigEndian_blank kGnssAltitudeOffset 8,
    writeBigEndian_blank kGnssHorizontalAccuracyOffset 4,
    writeBigEndian_blank kGnssVerticalAccuracyOffset 0]
  · simp only [gnssLayout, List.nil_append, List.append_assoc, List.replicate_zero]
  all_goals rfl

/-! ## The camera layout -/

/-- A camera record with the length it declares. -/
def cameraLayout (metadata : CameraMeta) (declared : BitVec 32) : Bytes :=
  BigEndian.encode metadata.frameId ++
    (BigEndian.encode metadata.width ++
      (BigEndian.encode metadata.height ++
        (BigEndian.encode metadata.exposureTimeUs ++
          (BigEndian.encode declared ++ metadata.extraData))))

/-- A camera payload is its fixed part and its extra data, whatever size it declares. -/
theorem length_cameraLayout (metadata : CameraMeta) (declared : BitVec 32) :
    (cameraLayout metadata declared).length =
      kCameraMetaFixedPayloadSize + metadata.extraData.length := by
  simp only [cameraLayout, List.length_append, BigEndian.length_encode,
    kCameraMetaFixedPayloadSize]
  omega

/-- The declared size is checked first against its bound, then against the bytes there are. -/
theorem decodeCamera_layout (metadata : CameraMeta) (declared : BitVec 32) :
    decodeCamera (cameraLayout metadata declared) =
      some (if declared.toNat > kMaxCameraExtraDataSize then payloadFailure .kValueOutOfRange
        else if metadata.extraData.length ≠ declared.toNat then payloadFailure .kSizeMismatch
        else if metadata.validate = .kNone then payloadSuccess (.cameraMeta metadata)
        else payloadFailure metadata.validate) := by
  have here {w : Nat} (hw : 8 ∣ w) (value : BitVec w) (rest : Bytes) :=
    readBigEndian_encode_append hw value rest
  have hframe : readBigEndian 64 (cameraLayout metadata declared) kCameraFrameIdOffset =
      some metadata.frameId := here (by decide) _ _
  have hwidth : readBigEndian 32 (cameraLayout metadata declared) kCameraWidthOffset =
      some metadata.width := readBigEndian_skip 0 rfl (here (by decide) _ _)
  have hheight : readBigEndian 32 (cameraLayout metadata declared) kCameraHeightOffset =
      some metadata.height :=
    readBigEndian_skip 4 rfl (readBigEndian_skip 0 rfl (here (by decide) _ _))
  have hexposure : readBigEndian 32 (cameraLayout metadata declared) kCameraExposureOffset =
      some metadata.exposureTimeUs :=
    readBigEndian_skip 8 rfl (readBigEndian_skip 4 rfl (readBigEndian_skip 0 rfl
      (here (by decide) _ _)))
  have hdeclared : readBigEndian 32 (cameraLayout metadata declared)
      kCameraExtraDataLengthOffset = some declared :=
    readBigEndian_skip 12 rfl (readBigEndian_skip 8 rfl (readBigEndian_skip 4 rfl
      (readBigEndian_skip 0 rfl (here (by decide) _ _))))
  have hlength := length_cameraLayout metadata declared
  have hsize : ¬ (cameraLayout metadata declared).length < kCameraMetaFixedPayloadSize := by
    omega
  have htail : (cameraLayout metadata declared).drop kCameraMetaFixedPayloadSize =
      metadata.extraData := by
    simp only [cameraLayout, ← List.append_assoc]
    exact List.drop_left' (by simp only [List.length_append, BigEndian.length_encode,
      kCameraMetaFixedPayloadSize])
  have hsub : subspan (cameraLayout metadata declared) kCameraMetaFixedPayloadSize =
      some metadata.extraData := by
    rw [subspan_eq (Nat.le_of_not_lt hsize), htail]
  rw [decodeCamera, if_neg hsize]
  simp only [hframe, hwidth, hheight, hexposure, hdeclared, hsub, hlength, Option.bind_eq_bind,
    Option.bind_some, ne_eq, Nat.add_left_cancel_iff]
  repeat' split
  all_goals rfl

/-- Every payload with a full fixed part is the layout of some metadata and declared size. -/
theorem exists_cameraLayout {bytes : Bytes} (h : kCameraMetaFixedPayloadSize ≤ bytes.length) :
    ∃ metadata declared, bytes = cameraLayout metadata declared := by
  rw [kCameraMetaFixedPayloadSize] at h
  refine ⟨{
    frameId := fieldAt 64 bytes 0
    width := fieldAt 32 bytes 8
    height := fieldAt 32 bytes 12
    exposureTimeUs := fieldAt 32 bytes 16
    extraData := bytes.drop 24 }, fieldAt 32 bytes 20, ?_⟩
  simp only [cameraLayout]
  rw [encode_fieldAt_append (by decide) bytes 20 (by omega) _ rfl,
    encode_fieldAt_append (by decide) bytes 16 (by omega) _ rfl,
    encode_fieldAt_append (by decide) bytes 12 (by omega) _ rfl,
    encode_fieldAt_append (by decide) bytes 8 (by omega) _ rfl,
    encode_fieldAt_append (by decide) bytes 0 (by omega) _ rfl, List.drop_zero]

/-- Valid metadata are encoded by their layout, which declares the size there is. -/
theorem CameraMeta.encode_eq {metadata : CameraMeta} (valid : metadata.validate = .kNone) :
    metadata.encode =
      .ok (cameraLayout metadata (BitVec.ofNat 32 metadata.extraData.length)) := by
  have fits : ¬ metadata.extraData.length > kMaxCameraExtraDataSize := by
    intro h
    simp [CameraMeta.validate, h] at valid
  unfold CameraMeta.encode requireValid
  simp only [fits, valid, ne_eq, not_true_eq_false, ↓reduceIte]
  change Except.ok _ = Except.ok _
  rw [← List.nil_append (List.replicate (kCameraMetaFixedPayloadSize + _) (0 : Byte)),
    writeBigEndian_blank kCameraFrameIdOffset (16 + metadata.extraData.length),
    writeBigEndian_blank kCameraWidthOffset (12 + metadata.extraData.length),
    writeBigEndian_blank kCameraHeightOffset (8 + metadata.extraData.length),
    writeBigEndian_blank kCameraExposureOffset (4 + metadata.extraData.length),
    writeBigEndian_blank kCameraExtraDataLengthOffset metadata.extraData.length]
  · -- the tail replaces the blank that is left
    have tail (pre : Bytes) (hpre : kCameraMetaFixedPayloadSize = pre.length) :
        splice (pre ++ List.replicate metadata.extraData.length 0) kCameraMetaFixedPayloadSize
          metadata.extraData = pre ++ metadata.extraData := by
      have hmiddle := splice_middle pre (List.replicate metadata.extraData.length 0) []
        metadata.extraData hpre List.length_replicate
      simpa only [List.append_nil] using hmiddle
    rw [tail]
    · simp only [cameraLayout, List.nil_append, List.append_assoc]
    · rfl
  all_goals first
    | rfl
    | omega
    | rw [kCameraMetaFixedPayloadSize]; omega

/-! ## The codec -/

/-- The bytes of a payload. -/
def payloadLayout : SensorPayload → Bytes
  | .imuSample sample => imuLayout sample
  | .gnssFix fix => gnssLayout fix
  | .cameraMeta metadata =>
    cameraLayout metadata (BitVec.ofNat 32 metadata.extraData.length)

/-- A valid payload is encoded as its layout. -/
theorem encodeSensorPayload_eq {payload : SensorPayload} (valid : payload.validate = .kNone) :
    encodeSensorPayload payload = .ok (payloadLayout payload) := by
  cases payload with
  | imuSample sample => exact ImuSample.encode_eq valid
  | gnssFix fix => exact GnssFix.encode_eq valid
  | cameraMeta metadata => exact CameraMeta.encode_eq valid

/-- An invalid payload is not encoded. -/
theorem encodeSensorPayload_error {payload : SensorPayload} (invalid : payload.validate ≠ .kNone) :
    ∃ exception, encodeSensorPayload payload = .error exception := by
  cases payload with
  | imuSample sample =>
    have rejected : sample.validate ≠ .kNone := invalid
    refine ⟨.invalidArgument sample.validate.toString, ?_⟩
    simp only [encodeSensorPayload, ImuSample.encode, requireValid, if_pos rejected]
    rfl
  | gnssFix fix =>
    have rejected : fix.validate ≠ .kNone := invalid
    refine ⟨.invalidArgument fix.validate.toString, ?_⟩
    simp only [encodeSensorPayload, GnssFix.encode, requireValid, if_pos rejected]
    rfl
  | cameraMeta metadata =>
    have rejected : metadata.validate ≠ .kNone := invalid
    simp only [encodeSensorPayload, CameraMeta.encode, requireValid, if_pos rejected]
    split
    · exact ⟨_, rfl⟩
    · exact ⟨_, rfl⟩

/-- A valid payload is read back from its layout. -/
theorem decodeSensorPayload_layout {payload : SensorPayload} (valid : payload.validate = .kNone) :
    decodeSensorPayload payload.messageType (payloadLayout payload) =
      some (payloadSuccess payload) := by
  cases payload with
  | imuSample sample =>
    have accepted : sample.validate = .kNone := valid
    exact (decodeImu_layout sample).trans (by rw [if_pos accepted])
  | gnssFix fix =>
    have accepted : fix.validate = .kNone := valid
    exact (decodeGnss_layout fix).trans (by rw [if_pos accepted])
  | cameraMeta metadata =>
    have accepted : metadata.validate = .kNone := valid
    have hmax := ((SensorPayload.validate_iff _).mp valid).2.2
    have hdeclared : (BitVec.ofNat 32 metadata.extraData.length).toNat =
        metadata.extraData.length := by
      apply Nat.mod_eq_of_lt
      rw [kMaxCameraExtraDataSize, kMaxPayloadSize] at hmax
      omega
    refine (decodeCamera_layout metadata _).trans ?_
    rw [hdeclared, if_neg (Nat.not_lt.mpr hmax), if_neg (not_not.mpr rfl), if_pos accepted]

/-- **The decoder accepts exactly the layouts of valid payloads of its type.** -/
theorem decodeSensorPayload_iff {type : MessageType} {bytes : Bytes} {payload : SensorPayload} :
    (∃ result, decodeSensorPayload type bytes = some result ∧ result.payload = some payload) ↔
      payload.messageType = type ∧ payload.validate = .kNone ∧ bytes = payloadLayout payload := by
  -- a validated answer holds the value it was read from
  have answered {value : SensorPayload} {error : SensorPayloadError} :
      (if error = .kNone then payloadSuccess value else payloadFailure error).payload =
        some payload ↔ error = .kNone ∧ value = payload := by
    split
    next h => simp only [payloadSuccess, Option.some.injEq, h, true_and]
    next h => simp only [payloadFailure, reduceCtorEq, h, false_and]
  constructor
  · rintro ⟨result, hdecode, hpayload⟩
    unfold decodeSensorPayload at hdecode
    split at hdecode
    next htype =>
      by_cases hsize : bytes.length = kImuPayloadSize
      · obtain ⟨sample, rfl⟩ := exists_imuLayout hsize
        rw [decodeImu_layout] at hdecode
        cases hdecode
        obtain ⟨hvalid, rfl⟩ := answered.mp hpayload
        exact ⟨htype.symm, hvalid, rfl⟩
      · rw [decodeImu, if_pos hsize] at hdecode
        cases hdecode
        cases hpayload
    next himu =>
      split at hdecode
      next htype =>
        by_cases hsize : bytes.length = kGnssPayloadSize
        · obtain ⟨fix, rfl⟩ := exists_gnssLayout hsize
          rw [decodeGnss_layout] at hdecode
          cases hdecode
          obtain ⟨hvalid, rfl⟩ := answered.mp hpayload
          exact ⟨htype.symm, hvalid, rfl⟩
        · rw [decodeGnss, if_pos hsize] at hdecode
          cases hdecode
          cases hpayload
      next hgnss =>
        split at hdecode
        next htype =>
          by_cases hsize : bytes.length < kCameraMetaFixedPayloadSize
          · rw [decodeCamera, if_pos hsize] at hdecode
            cases hdecode
            cases hpayload
          · obtain ⟨metadata, declared, rfl⟩ := exists_cameraLayout (Nat.le_of_not_lt hsize)
            rw [decodeCamera_layout] at hdecode
            cases hdecode
            split at hpayload
            · cases hpayload
            · split at hpayload
              · cases hpayload
              next hdeclared =>
                obtain ⟨hvalid, rfl⟩ := answered.mp hpayload
                have hlength : declared = BitVec.ofNat 32 metadata.extraData.length := by
                  rw [not_not.mp hdeclared, BitVec.ofNat_toNat, BitVec.setWidth_eq]
                exact ⟨htype.symm, hvalid, by rw [payloadLayout, hlength]⟩
        · cases hdecode
          cases hpayload
  · rintro ⟨rfl, hvalid, rfl⟩
    exact ⟨_, decodeSensorPayload_layout hvalid, rfl⟩

/-- **The decoder always answers**, and it gives either a payload or an error. -/
theorem decodeSensorPayload_answers (type : MessageType) (bytes : Bytes) :
    ∃ result, decodeSensorPayload type bytes = some result ∧
      (result.payload = none ↔ result.error ≠ .kNone) := by
  have failure {error : SensorPayloadError} (h : error ≠ .kNone) :
      (payloadFailure error).payload = none ↔ (payloadFailure error).error ≠ .kNone :=
    ⟨fun _ => h, fun _ => rfl⟩
  have judged (value : SensorPayload) (error : SensorPayloadError) :
      (if error = .kNone then payloadSuccess value else payloadFailure error).payload = none ↔
        (if error = .kNone then payloadSuccess value else payloadFailure error).error ≠ .kNone := by
    split
    next h => exact ⟨fun h => (nomatch h), fun h => absurd rfl h⟩
    next h => exact failure h
  unfold decodeSensorPayload
  split
  · by_cases hsize : bytes.length = kImuPayloadSize
    · obtain ⟨sample, rfl⟩ := exists_imuLayout hsize
      exact ⟨_, decodeImu_layout sample, judged _ _⟩
    · exact ⟨_, if_pos hsize, failure (by decide)⟩
  · split
    · by_cases hsize : bytes.length = kGnssPayloadSize
      · obtain ⟨fix, rfl⟩ := exists_gnssLayout hsize
        exact ⟨_, decodeGnss_layout fix, judged _ _⟩
      · exact ⟨_, if_pos hsize, failure (by decide)⟩
    · split
      · by_cases hsize : bytes.length < kCameraMetaFixedPayloadSize
        · exact ⟨_, if_pos hsize, failure (by decide)⟩
        · obtain ⟨metadata, declared, rfl⟩ := exists_cameraLayout (Nat.le_of_not_lt hsize)
          refine ⟨_, decodeCamera_layout metadata declared, ?_⟩
          split
          · exact failure (by decide)
          · split
            · exact failure (by decide)
            · exact judged _ _
      · exact ⟨_, rfl, failure (by decide)⟩

/-- The encoder throws on exactly what the validator rejects. -/
theorem encodeSensorPayload_error_iff {payload : SensorPayload} :
    (∃ exception, encodeSensorPayload payload = .error exception) ↔ payload.validate ≠ .kNone := by
  refine ⟨?_, encodeSensorPayload_error⟩
  rintro ⟨exception, hthrows⟩ hvalid
  rw [encodeSensorPayload_eq hvalid] at hthrows
  cases hthrows

/-- A fix on the north pole and the date line, with a negative zero and a subnormal. -/
def poleFix : GnssFix :=
  { latitudeDeg := ninety
    longitudeDeg := minusOneEighty
    altitudeM := ⟨0x8000000000000000#64⟩
    horizontalAccuracyM := ⟨0x80000000#32⟩
    verticalAccuracyM := ⟨1#32⟩ }

/-! ## The two directions -/

/-- **The payload codec is a bijection for each message type.** -/
theorem payloadCodec_bijective :
    (∀ payload : SensorPayload,
      (payload.validate ≠ .kNone ↔ ¬ payload.Valid) ∧
      ((∃ exception, encodeSensorPayload payload = .error exception) ↔
        payload.validate ≠ .kNone) ∧
      (payload.validate = .kNone → ∃ bytes, encodeSensorPayload payload = .ok bytes ∧
        decodeSensorPayload payload.messageType bytes =
          some { payload := some payload, error := .kNone })) ∧
    (∀ (type : MessageType) (bytes : Bytes) (payload : SensorPayload),
      (∃ result, decodeSensorPayload type bytes = some result ∧ result.payload = some payload) →
        payload.messageType = type ∧ encodeSensorPayload payload = .ok bytes) := by
  refine ⟨fun payload => ⟨not_congr payload.validate_iff, encodeSensorPayload_error_iff, ?_⟩, ?_⟩
  · intro valid
    exact ⟨_, encodeSensorPayload_eq valid, decodeSensorPayload_layout valid⟩
  · intro type bytes payload decoded
    obtain ⟨htype, hvalid, hbytes⟩ := decodeSensorPayload_iff.mp decoded
    exact ⟨htype, (encodeSensorPayload_eq hvalid).trans (congrArg _ hbytes.symm)⟩

/-- A fix at the bounds of its angles, with two negative zeros, goes there and back. -/
theorem payloadCodec_bijective_poleFix :
    ∃ bytes, encodeSensorPayload (.gnssFix poleFix) = .ok bytes ∧
      decodeSensorPayload .kGnss bytes = some { payload := some (.gnssFix poleFix), error := .kNone } :=
  (payloadCodec_bijective.1 (.gnssFix poleFix)).2.2 (by decide +kernel)

end Driveflow.Protocol

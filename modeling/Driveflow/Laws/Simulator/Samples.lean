import Driveflow.Laws.Protocol.Datagram
import Driveflow.Simulator.SensorSimulator

/-!
# What an accepted configuration generates

`Accepted` says what `validate_runtime_config` accepts without its order of checks. Under it every
sample is valid, whatever its sequence number, so the two encoders cannot throw and the packet of a
pass is a known layout (`encodeSample_eq`).
-/

namespace Driveflow.Simulator

open Library Net Protocol

/-! ## The validator -/

/-- A configuration `validate_runtime_config` accepts. -/
structure Accepted (calls : SocketCalls) (config : SimulatorConfig) : Prop where
  address : isIpv4Address calls config.destination.address = true
  port : config.destination.port ≠ 0
  rate : rateAllowed config.rateHz = true
  count : config.packetCount ≠ some 0
  extraData : config.cameraExtraDataBytes ≤ kMaxCameraExtraDataSize
  cameraOnly : config.sensorType ≠ .kCameraMeta → config.cameraExtraDataBytes = 0
  drop : config.faults.dropEvery ≠ some 0
  duplicate : config.faults.duplicateEvery ≠ some 0
  reorder : config.faults.reorderEvery ≠ some 0
  corrupt : config.faults.corruptEvery ≠ some 0
  delay : ∀ delay, config.faults.delay = some delay →
    delay.every ≠ 0 ∧ 0 < delay.duration ∧ delay.duration ≤ kMaximumFaultDelay

theorem validateInterval_iff {interval : Option (BitVec 64)} {name : String} :
    validateInterval interval name = .ok () ↔ interval ≠ some 0 := by
  unfold validateInterval
  split
  next h => exact ⟨nofun, fun hne => absurd h hne⟩
  next h => exact ⟨fun _ => h, fun _ => rfl⟩

/-- A delay is accepted exactly with a positive interval and a duration within its bound. -/
theorem validateDelay_iff {delay : Option PeriodicDelay} :
    validateDelay delay = .ok () ↔ ∀ set, delay = some set →
      set.every ≠ 0 ∧ 0 < set.duration ∧ set.duration ≤ kMaximumFaultDelay := by
  unfold validateDelay
  cases delay with
  | none => exact ⟨nofun, fun _ => rfl⟩
  | some delay =>
    dsimp only
    split
    next hevery => exact ⟨nofun, fun h => absurd hevery (h delay rfl).1⟩
    next hevery =>
      split
      next hduration =>
        refine ⟨nofun, fun h => ?_⟩
        obtain ⟨_, hpositive, hbounded⟩ := h delay rfl
        rcases hduration with hzero | hlarge
        · exact absurd hpositive (Int.not_lt.mpr hzero)
        · exact absurd hbounded (Int.not_le.mpr hlarge)
      next hduration =>
        obtain ⟨hpositive, hbounded⟩ := not_or.mp hduration
        refine ⟨fun _ set h => ?_, fun _ => rfl⟩
        obtain rfl := Option.some.inj h
        exact ⟨hevery, Int.not_le.mp hpositive, Int.not_lt.mp hbounded⟩

/-- One check after another. -/
private theorem checks_eq_ok {check rest : Except Exception Unit} :
    (check >>= fun _ => rest) = .ok () ↔ check = .ok () ∧ rest = .ok () :=
  bind_eq_ok.trans ⟨fun ⟨_, h⟩ => h, fun h => ⟨(), h⟩⟩

/-- **The validator accepts exactly the accepted configurations.** -/
theorem validateRuntimeConfig_iff {calls : SocketCalls} {config : SimulatorConfig} :
    validateRuntimeConfig calls config = .ok () ↔ Accepted calls config := by
  have hknown : config.sensorType = .kImu ∨ config.sensorType = .kGnss ∨
      config.sensorType = .kCameraMeta := by
    cases config.sensorType with
    | kImu => exact .inl rfl
    | kGnss => exact .inr (.inl rfl)
    | kCameraMeta => exact .inr (.inr rfl)
  unfold validateRuntimeConfig
  dsimp only
  rw [if_neg (not_not.mpr hknown)]
  split
  next h => exact ⟨nofun, fun ok => absurd ok.address (by simpa using h)⟩
  next haddress =>
    split
    next h => exact ⟨nofun, fun ok => absurd h ok.port⟩
    next hport =>
      split
      next h => exact ⟨nofun, fun ok => absurd ok.rate (by simpa using h)⟩
      next hrate =>
        split
        next h => exact ⟨nofun, fun ok => absurd h ok.count⟩
        next hcount =>
          split
          next h =>
            exact ⟨nofun, fun ok => absurd ok.extraData (Nat.not_le.mpr h)⟩
          next hextra =>
            split
            next h =>
              exact ⟨nofun, fun ok => absurd (ok.cameraOnly h.1) h.2⟩
            next hcamera =>
              simp only [checks_eq_ok, validateInterval_iff, validateDelay_iff]
              constructor
              · rintro ⟨hdrop, hduplicate, hreorder, hcorrupt, hdelay⟩
                exact {
                  address := by simpa using haddress
                  port := hport
                  rate := by simpa using hrate
                  count := hcount
                  extraData := Nat.not_lt.mp hextra
                  cameraOnly := fun h => not_not.mp fun hne => hcamera ⟨h, hne⟩
                  drop := hdrop
                  duplicate := hduplicate
                  reorder := hreorder
                  corrupt := hcorrupt
                  delay := hdelay }
              · exact fun ok => ⟨ok.drop, ok.duplicate, ok.reorder, ok.corrupt, ok.delay⟩

/-! ## Samples -/

/-- **Every sample is valid**, whatever its sequence number. -/
theorem makeSensorSample_valid {extraBytes : Nat} (fits : extraBytes ≤ kMaxCameraExtraDataSize)
    (sensorType : SensorType) (sequenceNumber : BitVec 64) :
    (makeSensorSample sensorType sequenceNumber extraBytes).validate = .kNone := by
  cases sensorType with
  | kImu => rfl
  | kGnss =>
    have hfix : (makeSensorSample .kGnss 0 0).validate = .kNone := by decide +kernel
    exact hfix
  | kCameraMeta =>
    refine (SensorPayload.validate_iff _).mpr ⟨nofun, nofun, ?_⟩
    rwa [List.length_map, List.length_range]

/-- The message type of a sensor. -/
def SensorType.messageType : SensorType → MessageType
  | .kImu => .kImu
  | .kGnss => .kGnss
  | .kCameraMeta => .kCameraMeta

theorem messageType_makeSensorSample (sensorType : SensorType) (sequenceNumber : BitVec 64)
    (extraBytes : Nat) :
    (makeSensorSample sensorType sequenceNumber extraBytes).messageType =
      sensorType.messageType := by
  cases sensorType with
  | kImu => rfl
  | kGnss => rfl
  | kCameraMeta => rfl

/-- The payload of a sample, as bytes. -/
def samplePayload (config : SimulatorConfig) (sequenceNumber : BitVec 64) : Bytes :=
  payloadLayout
    (makeSensorSample config.sensorType sequenceNumber config.cameraExtraDataBytes)

/-- The header of a sample's packet. -/
def sampleHeader (config : SimulatorConfig) (sequenceNumber timestampNs : BitVec 64) :
    PacketHeader :=
  sealedHeader config.sensorType.messageType sequenceNumber timestampNs
    (samplePayload config sequenceNumber)

/-- The bytes of a sample's packet. -/
def sampleBytes (config : SimulatorConfig) (sequenceNumber timestampNs : BitVec 64) : Bytes :=
  layout (sampleHeader config sequenceNumber timestampNs) (samplePayload config sequenceNumber)

section Encoding

variable {calls : SocketCalls} {config : SimulatorConfig} (accepted : Accepted calls config)
  (sequenceNumber timestampNs : BitVec 64)

include accepted

/-- The payload of a sample fits a packet. -/
theorem length_samplePayload : (samplePayload config sequenceNumber).length ≤ kMaxPayloadSize :=
  length_payloadLayout_le (makeSensorSample_valid accepted.extraData _ _)

/-- **Neither encoder throws**, and what they make is the sample's layout. -/
theorem encodeSample_eq :
    encodeSample config sequenceNumber timestampNs =
      .ok (sampleBytes config sequenceNumber timestampNs) := by
  have hvalid := makeSensorSample_valid accepted.extraData config.sensorType sequenceNumber
  have hknown := isKnownMessageType_messageType
    (makeSensorSample config.sensorType sequenceNumber config.cameraExtraDataBytes)
  rw [encodeSample, encodeSensorPayload_eq hvalid]
  refine (encodePacket_eq sequenceNumber timestampNs hknown
    (length_samplePayload accepted sequenceNumber)).trans ?_
  rw [messageType_makeSensorSample]
  rfl

/-- The packet fits a datagram. -/
theorem length_sampleBytes :
    (sampleBytes config sequenceNumber timestampNs).length ≤ kMaxUdpPayloadSize := by
  rw [sampleBytes, length_layout, ← limits_meet.2]
  exact Nat.add_le_add_left (length_samplePayload accepted sequenceNumber) _

end Encoding

end Driveflow.Simulator

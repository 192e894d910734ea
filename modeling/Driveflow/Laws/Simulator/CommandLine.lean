import Driveflow.Laws.Simulator.Samples
import Driveflow.Simulator.SimulatorConfig

/-!
# What the simulator's command line accepts

`parse_simulator_config` checks numbers as it reads them and the rest behind its loop;
`validate_runtime_config` checks the whole again. `SetsOption` is what one option does, `Positive`
what holds of the intervals after every option, and a parsed configuration is an accepted one
(`accepted_of_parsed`).
-/

namespace Driveflow.Simulator

open Library Net Protocol

/-! ## One option -/

/-- A number is read from its decimal text only, and from the whole of it. -/
theorem isDecimal_of_parseNumber {width : Nat} {text : List Char} {number : BitVec width}
    (h : parseNumber width text = some number) : IsDecimal text number.toNat := by
  unfold parseNumber at h
  cases hread : fromChars width text with
  | none =>
    rw [hread] at h
    exact nomatch h
  | some read =>
    obtain ⟨value, rest⟩ := read
    rw [hread] at h
    dsimp only at h
    split at h
    next hend =>
      cases h
      exact isDecimal_of_fromChars (hend ▸ hread)
    · exact nomatch h

/-- An interval is the decimal text of a number other than zero. -/
theorem parseInterval_eq_ok {name : String} {text : List Char} {interval : BitVec 64}
    (h : parseInterval name text = .ok interval) :
    IsDecimal text interval.toNat ∧ interval ≠ 0 := by
  unfold parseInterval at h
  cases hnumber : parseNumber 64 text with
  | none =>
    rw [hnumber] at h
    exact nomatch h
  | some number =>
    rw [hnumber] at h
    dsimp only at h
    split at h
    · exact nomatch h
    next hpositive =>
      cases h
      exact ⟨isDecimal_of_parseNumber hnumber, hpositive⟩

/-- A delay is the decimal text of a positive number of milliseconds within its bound. -/
theorem parseDelayMs_eq_ok {text : List Char} {durationMs : BitVec 64}
    (h : parseDelayMs text = .ok durationMs) :
    IsDecimal text durationMs.toNat ∧
      durationMs ≠ 0 ∧ (durationMs.toNat : Int) ≤ kMaximumFaultDelay := by
  unfold parseDelayMs at h
  cases hnumber : parseNumber 64 text with
  | none =>
    rw [hnumber] at h
    exact nomatch h
  | some number =>
    rw [hnumber] at h
    dsimp only at h
    split at h
    · exact nomatch h
    next hrange =>
      cases h
      obtain ⟨hpositive, hbounded⟩ := not_or.mp hrange
      exact ⟨isDecimal_of_parseNumber hnumber, hpositive, Int.not_lt.mp hbounded⟩

/-- What an option with its value does. -/
inductive SetsOption (fromCharsDouble : FromCharsDouble) (options : SimulatorOptions)
    (value : String) : String → SimulatorOptions → Prop where
  | sensor {sensorType : SensorType} : parseSensor value = .ok sensorType →
    SetsOption fromCharsDouble options value "--sensor"
      { options with config := { options.config with sensorType }, hasSensor := true }
  | destination : SetsOption fromCharsDouble options value "--destination"
    { options with
      config := { options.config with
        destination := { options.config.destination with address := value } } }
  | port {port : BitVec 16} : parseNumber 16 value.toList = some port →
    SetsOption fromCharsDouble options value "--port"
      { options with
        config := { options.config with
          destination := { options.config.destination with port } } }
  | rate {rateHz : Option ℚ} : parseDouble fromCharsDouble value.toList = some rateHz →
    SetsOption fromCharsDouble options value "--rate-hz"
      { options with config := { options.config with rateHz }, hasExplicitRate := true }
  | count {packetCount : BitVec 64} : parseNumber 64 value.toList = some packetCount →
    SetsOption fromCharsDouble options value "--count"
      { options with config := { options.config with packetCount } }
  | extraBytes {cameraExtraDataBytes : Nat} :
    parseExtraBytes value.toList = .ok cameraExtraDataBytes →
    SetsOption fromCharsDouble options value "--camera-extra-bytes"
      { options with config := { options.config with cameraExtraDataBytes } }
  | drop {interval : BitVec 64} : parseInterval "drop-every" value.toList = .ok interval →
    SetsOption fromCharsDouble options value "--drop-every"
      { options with
        config := { options.config with
          faults := { options.config.faults with dropEvery := interval } } }
  | duplicate {interval : BitVec 64} :
    parseInterval "duplicate-every" value.toList = .ok interval →
    SetsOption fromCharsDouble options value "--duplicate-every"
      { options with
        config := { options.config with
          faults := { options.config.faults with duplicateEvery := interval } } }
  | reorder {interval : BitVec 64} :
    parseInterval "reorder-every" value.toList = .ok interval →
    SetsOption fromCharsDouble options value "--reorder-every"
      { options with
        config := { options.config with
          faults := { options.config.faults with reorderEvery := interval } } }
  | delayEvery {interval : BitVec 64} : parseInterval "delay-every" value.toList = .ok interval →
    SetsOption fromCharsDouble options value "--delay-every"
      { options with delayEvery := interval }
  | delayMs {durationMs : BitVec 64} : parseDelayMs value.toList = .ok durationMs →
    SetsOption fromCharsDouble options value "--delay-ms" { options with delayMs := durationMs }
  | corrupt {interval : BitVec 64} :
    parseInterval "corrupt-every" value.toList = .ok interval →
    SetsOption fromCharsDouble options value "--corrupt-every"
      { options with
        config := { options.config with
          faults := { options.config.faults with corruptEvery := interval } } }

/-- The inversion of `setOption`. -/
theorem setsOption_of_setOption {fromCharsDouble : FromCharsDouble}
    {options next : SimulatorOptions} {option value : String}
    (h : setOption fromCharsDouble options option value = .ok next) :
    SetsOption fromCharsDouble options value option next := by
  unfold setOption at h
  dsimp only at h
  by_cases hsensor : option = "--sensor"
  · rw [if_pos hsensor] at h
    obtain ⟨_, hvalue, hnext⟩ := bind_eq_ok.mp h
    exact hsensor ▸ Except.ok.inj hnext ▸ .sensor hvalue
  rw [if_neg hsensor] at h
  by_cases hdestination : option = "--destination"
  · rw [if_pos hdestination] at h
    exact hdestination ▸ Except.ok.inj h ▸ .destination
  rw [if_neg hdestination] at h
  by_cases hport : option = "--port"
  · rw [if_pos hport] at h
    cases hvalue : parseNumber 16 value.toList with
    | none =>
      rw [hvalue] at h
      exact nomatch h
    | some number =>
      rw [hvalue] at h
      exact hport ▸ Except.ok.inj h ▸ .port hvalue
  rw [if_neg hport] at h
  by_cases hrate : option = "--rate-hz"
  · rw [if_pos hrate] at h
    cases hvalue : parseDouble fromCharsDouble value.toList with
    | none =>
      rw [hvalue] at h
      exact nomatch h
    | some number =>
      rw [hvalue] at h
      exact hrate ▸ Except.ok.inj h ▸ .rate hvalue
  rw [if_neg hrate] at h
  by_cases hcount : option = "--count"
  · rw [if_pos hcount] at h
    cases hvalue : parseNumber 64 value.toList with
    | none =>
      rw [hvalue] at h
      exact nomatch h
    | some number =>
      rw [hvalue] at h
      exact hcount ▸ Except.ok.inj h ▸ .count hvalue
  rw [if_neg hcount] at h
  by_cases hextraBytes : option = "--camera-extra-bytes"
  · rw [if_pos hextraBytes] at h
    obtain ⟨_, hvalue, hnext⟩ := bind_eq_ok.mp h
    exact hextraBytes ▸ Except.ok.inj hnext ▸ .extraBytes hvalue
  rw [if_neg hextraBytes] at h
  by_cases hdrop : option = "--drop-every"
  · rw [if_pos hdrop] at h
    obtain ⟨_, hvalue, hnext⟩ := bind_eq_ok.mp h
    exact hdrop ▸ Except.ok.inj hnext ▸ .drop hvalue
  rw [if_neg hdrop] at h
  by_cases hduplicate : option = "--duplicate-every"
  · rw [if_pos hduplicate] at h
    obtain ⟨_, hvalue, hnext⟩ := bind_eq_ok.mp h
    exact hduplicate ▸ Except.ok.inj hnext ▸ .duplicate hvalue
  rw [if_neg hduplicate] at h
  by_cases hreorder : option = "--reorder-every"
  · rw [if_pos hreorder] at h
    obtain ⟨_, hvalue, hnext⟩ := bind_eq_ok.mp h
    exact hreorder ▸ Except.ok.inj hnext ▸ .reorder hvalue
  rw [if_neg hreorder] at h
  by_cases hdelayEvery : option = "--delay-every"
  · rw [if_pos hdelayEvery] at h
    obtain ⟨_, hvalue, hnext⟩ := bind_eq_ok.mp h
    exact hdelayEvery ▸ Except.ok.inj hnext ▸ .delayEvery hvalue
  rw [if_neg hdelayEvery] at h
  by_cases hdelayMs : option = "--delay-ms"
  · rw [if_pos hdelayMs] at h
    obtain ⟨_, hvalue, hnext⟩ := bind_eq_ok.mp h
    exact hdelayMs ▸ Except.ok.inj hnext ▸ .delayMs hvalue
  rw [if_neg hdelayMs] at h
  by_cases hcorrupt : option = "--corrupt-every"
  · rw [if_pos hcorrupt] at h
    obtain ⟨_, hvalue, hnext⟩ := bind_eq_ok.mp h
    exact hcorrupt ▸ Except.ok.inj hnext ▸ .corrupt hvalue
  rw [if_neg hcorrupt] at h
  exact nomatch h

/-! ## The loop -/

/-- What holds of the intervals and the delay after every option. -/
structure Positive (options : SimulatorOptions) : Prop where
  drop : options.config.faults.dropEvery ≠ some 0
  duplicate : options.config.faults.duplicateEvery ≠ some 0
  reorder : options.config.faults.reorderEvery ≠ some 0
  corrupt : options.config.faults.corruptEvery ≠ some 0
  /-- The delay is put together behind the loop. -/
  delay : options.config.faults.delay = none
  delayEvery : options.delayEvery ≠ some 0
  delayMs : ∀ durationMs, options.delayMs = some durationMs →
    durationMs ≠ 0 ∧ (durationMs.toNat : Int) ≤ kMaximumFaultDelay

/-- The defaults have no interval that could be zero. -/
theorem positive_default : Positive {} :=
  ⟨nofun, nofun, nofun, nofun, rfl, nofun, nofun⟩

/-- An interval that is read is given and not zero. -/
theorem some_ne_zero {text : List Char} {name : String} {interval : BitVec 64}
    (h : parseInterval name text = .ok interval) : some interval ≠ some 0 :=
  fun hzero => (parseInterval_eq_ok h).2 (Option.some.inj hzero)

/-- Whatever option is set, the intervals stay positive. -/
theorem Positive.setsOption {fromCharsDouble : FromCharsDouble} {options next : SimulatorOptions}
    {option value : String} (positive : Positive options)
    (h : SetsOption fromCharsDouble options value option next) : Positive next := by
  cases h with
  | drop hinterval => exact { positive with drop := some_ne_zero hinterval }
  | duplicate hinterval => exact { positive with duplicate := some_ne_zero hinterval }
  | reorder hinterval => exact { positive with reorder := some_ne_zero hinterval }
  | corrupt hinterval => exact { positive with corrupt := some_ne_zero hinterval }
  | delayEvery hinterval => exact { positive with delayEvery := some_ne_zero hinterval }
  | delayMs hduration =>
    refine { positive with delayMs := fun durationMs hset => ?_ }
    cases hset
    exact (parseDelayMs_eq_ok hduration).2
  | _ => exact { positive with }

/-- The intervals are positive after any options that are read. -/
theorem positive_of_foldPairs {fromCharsDouble : FromCharsDouble} {missing : String → String}
    {arguments : List String} {options : SimulatorOptions}
    (h : foldPairs missing (parseOption fromCharsDouble) {} arguments = .ok options) :
    Positive options := by
  have hstep (before : List (String × String)) (options : SimulatorOptions)
      (option value : String) (next : SimulatorOptions) (positive : Positive options)
      (h : parseOption fromCharsDouble options option value = .ok next) : Positive next := by
    unfold parseOption at h
    split at h
    · exact nomatch h
    · have hseen : Positive { options with seenOptions := option :: options.seenOptions } :=
        { positive with }
      exact hseen.setsOption (setsOption_of_setOption h)
  exact foldPairs_invariant h (fun _ options => Positive options) positive_default hstep

/-! ## The parser and the validator -/

/-- What the checks behind the loop let through: the configuration with its rate, and with the delay
that is put together last. -/
structure Finished (calls : SocketCalls) (options : SimulatorOptions)
    (rated config : SimulatorConfig) : Prop where
  faults : rated.faults = options.config.faults
  address : isIpv4Address calls rated.destination.address = true
  port : rated.destination.port ≠ 0
  rate : rateAllowed rated.rateHz = true
  count : rated.packetCount ≠ some 0
  extraData : rated.cameraExtraDataBytes ≤ kMaxCameraExtraDataSize
  cameraOnly : rated.sensorType ≠ .kCameraMeta → rated.cameraExtraDataBytes = 0
  delay : (options.delayEvery = none ∧ options.delayMs = none ∧ config = rated) ∨
    ∃ every delayMs, options.delayEvery = some every ∧ options.delayMs = some delayMs ∧
      config = { rated with
        faults := { rated.faults with delay := some { every, duration := delayMs.toInt } } }

/-- What the checks behind the loop accept: the rate is filled in first, then the fields are
checked in turn, and the two delay options must come together. -/
theorem finished_of_finishOptions {calls : SocketCalls} {options : SimulatorOptions}
    {config : SimulatorConfig} (h : finishOptions calls options = .ok config) :
    ∃ rated, Finished calls options rated config := by
  unfold finishOptions at h
  split at h
  · exact nomatch h
  · dsimp only at h
    -- the default rate leaves the other fields alone
    generalize hrated : (if !options.hasExplicitRate then _ else options.config :
      SimulatorConfig) = rated at h
    have hfaults : rated.faults = options.config.faults := by
      rw [← hrated]
      split <;> rfl
    by_cases haddress : (!isIpv4Address calls rated.destination.address) = true
    · rw [if_pos haddress] at h
      exact nomatch h
    rw [if_neg haddress] at h
    by_cases hport : rated.destination.port = 0
    · rw [if_pos hport] at h
      exact nomatch h
    rw [if_neg hport] at h
    by_cases hrate : (!rateAllowed rated.rateHz) = true
    · rw [if_pos hrate] at h
      exact nomatch h
    rw [if_neg hrate] at h
    by_cases hcount : rated.packetCount = some 0
    · rw [if_pos hcount] at h
      exact nomatch h
    rw [if_neg hcount] at h
    by_cases hextra : rated.cameraExtraDataBytes > kMaxCameraExtraDataSize
    · rw [if_pos hextra] at h
      exact nomatch h
    rw [if_neg hextra] at h
    by_cases hcamera : rated.sensorType ≠ .kCameraMeta ∧ rated.cameraExtraDataBytes ≠ 0
    · rw [if_pos hcamera] at h
      exact nomatch h
    rw [if_neg hcamera] at h
    have hcameraOnly (hother : rated.sensorType ≠ .kCameraMeta) : rated.cameraExtraDataBytes = 0 :=
      not_not.mp fun hbytes => hcamera ⟨hother, hbytes⟩
    have hknown : isIpv4Address calls rated.destination.address = true :=
      Bool.not_eq_false _ ▸ fun hunknown => haddress (congrArg (!·) hunknown)
    have hallowed : rateAllowed rated.rateHz = true :=
      Bool.not_eq_false _ ▸ fun hrefused => hrate (congrArg (!·) hrefused)
    refine ⟨rated, hfaults, hknown, hport, hallowed, hcount, Nat.not_lt.mp hextra, hcameraOnly, ?_⟩
    cases hevery : options.delayEvery with
    | none =>
      cases hms : options.delayMs with
      | none =>
        rw [hevery, hms] at h
        exact .inl ⟨rfl, rfl, (Except.ok.inj h).symm⟩
      | some delayMs =>
        rw [hevery, hms] at h
        exact nomatch h
    | some every =>
      cases hms : options.delayMs with
      | none =>
        rw [hevery, hms] at h
        exact nomatch h
      | some delayMs =>
        rw [hevery, hms] at h
        exact .inr ⟨every, delayMs, rfl, rfl, (Except.ok.inj h).symm⟩

/-- A delay that was read is a positive number of milliseconds. -/
theorem Positive.toInt_delayMs {options : SimulatorOptions} (positive : Positive options)
    {delayMs : BitVec 64} (given : options.delayMs = some delayMs) :
    delayMs.toInt = delayMs.toNat ∧ 0 < delayMs.toInt ∧ delayMs.toInt ≤ kMaximumFaultDelay := by
  obtain ⟨hnonzero, hbounded⟩ := positive.delayMs delayMs given
  have htoNat : delayMs.toNat ≤ 60000 := Int.ofNat_le.mp hbounded
  have hduration : delayMs.toInt = delayMs.toNat := BitVec.toInt_eq_toNat_of_lt (by omega)
  rw [hduration]
  exact ⟨rfl, Int.natCast_pos.mpr
    (Nat.pos_of_ne_zero fun hzero => hnonzero (BitVec.eq_of_toNat_eq hzero)), hbounded⟩

/-- Positive intervals and the checks behind the loop are all that the validator asks for. -/
theorem accepted_of_finishOptions {calls : SocketCalls} {options : SimulatorOptions}
    {config : SimulatorConfig} (positive : Positive options)
    (h : finishOptions calls options = .ok config) : Accepted calls config := by
  obtain ⟨rated, finished⟩ := finished_of_finishOptions h
  have hfaults := finished.faults
  have hparts : Accepted calls rated :=
    { address := finished.address, port := finished.port, rate := finished.rate
      count := finished.count, extraData := finished.extraData, cameraOnly := finished.cameraOnly
      drop := hfaults ▸ positive.drop, duplicate := hfaults ▸ positive.duplicate
      reorder := hfaults ▸ positive.reorder, corrupt := hfaults ▸ positive.corrupt
      delay := fun delay hdelay => by
        rw [hfaults, positive.delay] at hdelay
        exact nomatch hdelay }
  rcases finished.delay with ⟨_, _, rfl⟩ | ⟨every, delayMs, hevery, hms, rfl⟩
  · exact hparts
  · refine { hparts with delay := fun delay hdelay => ?_ }
    cases hdelay
    exact ⟨fun hzero => positive.delayEvery (hevery.trans (congrArg some hzero)),
      (positive.toInt_delayMs hms).2⟩

/-- **A parsed configuration is an accepted one.** -/
theorem accepted_of_parsed {calls : SocketCalls} {fromCharsDouble : FromCharsDouble}
    {arguments : List String} {config : SimulatorConfig}
    (h : parseSimulatorConfig calls fromCharsDouble arguments = .ok config) :
    Accepted calls config := by
  obtain ⟨options, hloop, hfinish⟩ := bind_eq_ok.mp h
  exact accepted_of_finishOptions (positive_of_foldPairs hloop) hfinish

/-! ## The run -/

/-- The call does not fail for an argument it was given. -/
def NotRefused {Result : Type} (call : Except Exception Result) : Prop :=
  ∀ what, call ≠ .error (.invalidArgument what)

/-- A call that returns does not refuse. -/
theorem notRefused_ok {Result : Type} (result : Result) : NotRefused (.ok result) := nofun

/-- A sequence of calls refuses nothing if none of its calls does. -/
theorem NotRefused.bind {First Result : Type} {call : Except Exception First}
    {rest : First → Except Exception Result} (first : NotRefused call)
    (continues : ∀ value, NotRefused (rest value)) : NotRefused (call >>= rest) := by
  cases call with
  | error failure =>
    intro what h
    exact first what (congrArg Except.error (Except.error.inj h))
  | ok value => exact continues value

section NotRefused

variable {environment : Environment} {config : SimulatorConfig} {stop : StopPredicate}

/-- Sending to an accepted destination can fail in the system calls only. -/
theorem notRefused_sendTo (accepted : Accepted environment.calls config) (bytes : Bytes) :
    NotRefused (sendTo environment.calls bytes config.destination) := by
  obtain ⟨address, haddress⟩ := Option.isSome_iff_exists.mp accepted.address
  intro what
  rw [sendTo, toSockaddr, haddress]
  split
  · simp
  · simp only [bind, Except.bind]
    split
    · simp
    · split
      · simp
      · simp

/-- Neither copy of a packet is refused. -/
theorem notRefused_sendPacket (accepted : Accepted environment.calls config)
    (packet : PendingPacket) (session : Session) :
    NotRefused (session.sendPacket environment config packet) := by
  have hcopy (duplicateCopy : Bool) (session : Session) :
      NotRefused (session.sendCopy environment config packet duplicateCopy) :=
    (notRefused_sendTo accepted _).bind fun _ => notRefused_ok _
  refine (hcopy false session).bind fun sent => ?_
  split
  · exact hcopy true sent
  · exact notRefused_ok sent

/-- No packet of a list is refused, wherever it is stopped. -/
theorem notRefused_sendPackets (accepted : Accepted environment.calls config)
    (packets : List PendingPacket) (session : Session) :
    NotRefused (session.sendPackets environment config stop packets) := by
  induction packets generalizing session with
  | nil => exact notRefused_ok _
  | cons packet packets ih =>
    rw [Session.sendPackets]
    dsimp only
    split
    · exact notRefused_ok _
    · split
      · exact notRefused_ok _
      · exact (notRefused_sendPacket accepted packet _).bind ih

/-- No batch is refused, whether its packets are sent to the end or not. -/
theorem notRefused_sendBatch (accepted : Accepted environment.calls config)
    (batch : InjectionBatch) (session : Session) :
    NotRefused (session.sendBatch environment config stop batch) := by
  refine (notRefused_sendPackets accepted batch.packets session).bind fun sent => ?_
  dsimp only
  split
  · exact notRefused_ok _
  · exact notRefused_ok _

/-- No pass is refused: a sample of an accepted configuration is always encoded. -/
theorem notRefused_pass (accepted : Accepted environment.calls config) (simulation : Simulation) :
    NotRefused (simulation.pass environment config stop) := by
  have hgenerate (session : Session) : NotRefused (session.generate config environment) := by
    rw [Session.generate, encodeSample_eq accepted]
    exact notRefused_ok _
  refine (hgenerate _).bind fun generated => ?_
  refine (notRefused_sendBatch accepted _ _).bind fun sent => ?_
  dsimp only
  split
  · exact notRefused_ok _
  · split
    · exact notRefused_ok _
    · exact notRefused_ok _

/-- No number of passes refuses. -/
theorem notRefused_loop (accepted : Accepted environment.calls config) (passes : Nat)
    (simulation : Simulation) : NotRefused (simulation.loop environment config stop passes) := by
  induction passes generalizing simulation with
  | zero => exact notRefused_ok _
  | succ passes ih =>
    rw [Simulation.loop]
    dsimp only
    split
    · exact notRefused_ok _
    · refine (notRefused_pass accepted _).bind fun passed => ?_
      split
      · exact ih _
      · exact notRefused_ok _

/-- **No run refuses an accepted configuration**: not at its start, and not at a packet. -/
theorem Accepted.notRefused (accepted : Accepted environment.calls config) (passes : Nat) :
    NotRefused (runSimulator environment config (some stop) passes) := by
  rw [runSimulator, validateRuntimeConfig_iff.mpr accepted]
  change NotRefused (if (!environment.opens) = true then _ else _)
  split
  · exact nofun
  · refine (notRefused_loop accepted passes _).bind fun looped => ?_
    split
    · exact notRefused_ok _
    · refine NotRefused.bind ?_ fun session => notRefused_ok _
      rw [Simulation.flush]
      split
      · exact notRefused_ok _
      · dsimp only
        split
        · exact notRefused_ok _
        · exact (notRefused_sendBatch accepted _ _).bind fun _ => notRefused_ok _

end NotRefused

end Driveflow.Simulator

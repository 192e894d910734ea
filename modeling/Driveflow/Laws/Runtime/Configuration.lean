import Driveflow.Laws.Runtime.ExactlyOnce
import Driveflow.Laws.Runtime.SourceHealth
import Driveflow.Runtime.Runtime

/-!
# What an accepted configuration is good for

The constructor of `Runtime` checks a configuration once; `run` then hands its parts to a monitor, a
tracker, a processor, a pipeline and every poll, and each checks its own part again. Up to the loop
nothing refuses what was accepted (`start_of_accepted`). A poll does: its timeout must fit an `int`,
and the constructor does not look at that end of the range (`neverRefuses_iff`).
-/

namespace Driveflow.Runtime

open Library Net Protocol

/-! ## What the poll checks -/

namespace EpollReceiver

/-- A receive call with the default size never finds its size wrong. -/
theorem tryReceive_ne_invalidArgument (calls : SocketCalls) (incoming : Incoming) (what : String) :
    tryReceive calls incoming ≠ .error (.invalidArgument what) := by
  have hsize : ¬ (kMaxUdpPayloadSize = 0 ∨ kMaxUdpPayloadSize > kMaxUdpPayloadSize) := by decide
  unfold tryReceive receiveDatagram
  rw [if_neg hsize]
  cases incoming with
  | failed => exact nofun
  | wouldBlock => exact nofun
  | datagram pending sender =>
    dsimp only
    split
    · exact nofun
    · unfold fromSockaddr
      cases calls.inetNtop sender.address <;> exact nofun

/-- Draining a listener refuses no argument. -/
theorem drain_ne_invalidArgument (calls : SocketCalls) (listener : Ipv4Endpoint) (limit : Nat)
    (incoming : List (Incoming × BitVec 64)) (drained : Drained) (what : String) :
    drain calls listener limit incoming drained ≠ .error (.invalidArgument what) := by
  induction incoming generalizing limit drained with
  | nil => cases limit <;> exact nofun
  | cons next rest ih =>
    cases limit with
    | zero => exact nofun
    | succ limit =>
      rw [drain]
      have hreceive := tryReceive_ne_invalidArgument calls next.1 what
      cases hreceived : tryReceive calls next.1 with
      | error exception =>
        rw [hreceived] at hreceive
        exact fun h => hreceive (congrArg Except.error (Except.error.inj h))
      | ok datagram =>
        cases datagram with
        | none => exact nofun
        | some datagram => exact ih limit _

/-- Nor does draining all of them. -/
theorem drainAll_ne_invalidArgument (calls : SocketCalls) (receiver : EpollReceiver)
    (events : List ReadyEvent) (drained : Drained) (what : String) :
    drainAll calls receiver events drained ≠ .error (.invalidArgument what) := by
  induction events generalizing drained with
  | nil => exact nofun
  | cons event events ih =>
    rw [drainAll]
    split
    · exact ih drained
    · cases receiver.listeners[event.listenerIndex]? with
      | none => exact nofun
      | some listener =>
        dsimp only
        have hdrain := drain_ne_invalidArgument calls listener
          receiver.maxDatagramsPerListenerPerPoll event.incoming drained what
        cases hdrained : drain calls listener receiver.maxDatagramsPerListenerPerPoll
            event.incoming drained with
        | error exception =>
          rw [hdrained] at hdrain
          exact fun h => hdrain (congrArg Except.error (Except.error.inj h))
        | ok drained => exact ih drained

/-- **A poll refuses a timeout that is no `int`, and nothing else.** -/
theorem poll_refuses_iff (receiver : EpollReceiver) (timeout : BitVec 64) (calls : SocketCalls)
    (epollWait : BitVec 32 → EpollWait) :
    (∃ what, receiver.poll timeout calls epollWait = .error (.invalidArgument what)) ↔
      timeout.toInt < 0 ∨ timeout.toInt > kMaxInt := by
  unfold poll
  constructor
  · rintro ⟨what, h⟩
    by_contra hrange
    rw [if_neg hrange] at h
    cases hwait : epollWait (timeout.setWidth 32) with
    | interrupted =>
      rw [hwait] at h
      cases h
    | failed =>
      rw [hwait] at h
      cases h
    | ready events =>
      rw [hwait] at h
      dsimp only at h
      generalize (if events.length > 0 then _ else receiver.metrics : ReceiverMetrics) = metrics
        at h
      have hdrain := drainAll_ne_invalidArgument calls receiver events (metrics, []) what
      cases hdrained : drainAll calls receiver events (metrics, []) with
      | error exception =>
        rw [hdrained] at h hdrain
        exact hdrain (congrArg Except.error (Except.error.inj h))
      | ok drained =>
        rw [hdrained] at h
        cases h
  · intro hrange
    rw [if_pos hrange]
    exact ⟨_, rfl⟩

end EpollReceiver

namespace Run

/-! ## What the constructor checks -/

/-- What the constructor of `Runtime` guarantees of its configuration. -/
theorem validateConfig_eq_ok {config valid : RuntimeConfig} (h : validateConfig config = .ok valid) :
    valid = config ∧ config.packetCount ≠ some 0 ∧ 0 < config.pollTimeout.toInt ∧
      config.pipeline.workerCount ≠ 0 ∧ config.pipeline.queueCapacity ≠ 0 ∧
      config.health.maxSources ≠ 0 ∧ config.health.healthyAfterPackets ≠ 0 ∧
      0 < config.health.degradedAfter.toInt ∧ 0 < config.health.recoveryAfter.toInt ∧
      config.health.degradedAfter.toInt < config.health.offlineAfter.toInt := by
  rw [validateConfig] at h
  split at h
  · cases h
  next hcount =>
    split at h
    · cases h
    next htimeout =>
      split at h
      · cases h
      next hworkers =>
        split at h
        · cases h
        next hcapacity =>
          split at h
          · cases h
          next hsources =>
            split at h
            · cases h
            next hhealth =>
              split at h
              · cases h
              next hoffline =>
                cases h
                rw [not_or, not_or] at hhealth
                exact ⟨rfl, hcount, Int.not_le.mp htimeout, hworkers, hcapacity, hsources,
                  hhealth.1, Int.not_le.mp hhealth.2.1, Int.not_le.mp hhealth.2.2,
                  Int.not_le.mp hoffline⟩

/-- A receiver is made of a validated configuration. -/
theorem make_eq_ok {config valid : RuntimeConfig} {receiver : EpollReceiver}
    {epollCreate1 : Option Nat} {listen : Ipv4Endpoint → Except Exception Ipv4Endpoint}
    (h : make config epollCreate1 listen = .ok (valid, receiver)) :
    validateConfig config = .ok valid := by
  unfold make at h
  cases hvalid : validateConfig config with
  | error exception =>
    rw [hvalid] at h
    cases h
  | ok checked =>
    rw [hvalid] at h
    change (EpollReceiver.make checked.receiver epollCreate1 listen >>= fun receiver =>
      Except.ok (checked, receiver)) = _ at h
    cases hreceiver : EpollReceiver.make checked.receiver epollCreate1 listen with
    | error exception =>
      rw [hreceiver] at h
      cases h
    | ok made =>
      rw [hreceiver] at h
      cases h
      rfl

/-- **Nothing before the loop refuses an accepted configuration**: the monitor with its tracker, the
sample processor and the pipeline are made. -/
theorem start_of_accepted {config : RuntimeConfig} (accepted : validateConfig config = .ok config)
    (receiver : EpollReceiver) :
    ∃ state, start config receiver true true = .ok state ∧ (system config).initial state ∧
      state.stage = .deciding ∧ state.packetsReceived = 0 ∧ state.config = config := by
  obtain ⟨_, _, _, hworkers, hcapacity, hsources, hpackets, hdegraded, hrecovery, hoffline⟩ :=
    validateConfig_eq_ok accepted
  have hmonitor : SourceHealthMonitor.make config.health =
      .ok { config := config.health
            streamTracker := { config := { maxSources := config.health.maxSources } } } := by
    have hvalid : SourceHealthMonitor.validateConfig config.health = .ok config.health := by
      rw [SourceHealthMonitor.validateConfig, if_neg hsources, if_neg hpackets,
        if_neg (Int.not_le.mpr hdegraded), if_neg (Int.not_le.mpr hoffline),
        if_neg (Int.not_le.mpr hrecovery)]
    have htracker : SensorStreamTracker.make { maxSources := config.health.maxSources } =
        .ok { config := { maxSources := config.health.maxSources } } := if_neg hsources
    rw [SourceHealthMonitor.make, hvalid]
    change (SensorStreamTracker.make { maxSources := config.health.maxSources } >>=
      fun streamTracker => Except.ok _) = _
    rw [htracker]
    rfl
  have hpipeline : WorkerPipeline.make config.pipeline true = .ok { config := config.pipeline } := by
    have hvalid : WorkerPipeline.validateConfig config.pipeline = .ok config.pipeline := by
      rw [WorkerPipeline.validateConfig, if_neg hworkers, if_neg hcapacity]
    rw [WorkerPipeline.make, hvalid]
    rfl
  refine ⟨_, ?_, ⟨_, _, receiver.metrics, hmonitor, hpipeline, rfl⟩, rfl, rfl, rfl⟩
  unfold start
  rw [hmonitor, hpipeline]
  rfl

/-! ## What `run` calls -/

/-- No call that `run` makes refuses its argument: not those before the loop, and no poll in any
state that any schedule, stop predicate and handler lead to, whatever the operating system does. -/
def NeverRefuses (config : RuntimeConfig) (receiver : EpollReceiver) : Prop :=
  (∀ what, start config receiver true true ≠ .error (.invalidArgument what)) ∧
    ∀ trace state, (system config).Reaches trace state → state.stage = .polling →
      ∀ (receiver : EpollReceiver) calls epollWait what,
        receiver.poll config.pollTimeout calls epollWait ≠ .error (.invalidArgument what)

/-- The first answer of the stop predicate may lead to a poll. -/
theorem exists_polling {config : RuntimeConfig} (accepted : validateConfig config = .ok config) :
    ∃ trace state, (system config).Reaches trace state ∧ state.stage = .polling := by
  obtain ⟨_, hcount, _⟩ := validateConfig_eq_ok accepted
  obtain ⟨state, _, hinitial, hstage, hreceived, hconfig⟩ :=
    start_of_accepted accepted { maxDatagramsPerListenerPerPoll := 0, listeners := [] }
  have hlimit : limitReached state = false := by
    rw [limitReached, hconfig, hreceived]
    cases hpackets : config.packetCount with
    | none => rfl
    | some packetCount =>
      refine decide_eq_false fun hle => hcount ?_
      have hzero : packetCount = 0 := BitVec.eq_of_toNat_eq (Nat.le_zero.mp hle)
      rw [hpackets, hzero]
  have hstep : perform state (.askStop false) =
      some ({ state with stage := .polling }, .stopAsked false) := by
    simp only [perform, hstage, hlimit, Bool.or_self, Bool.false_eq_true, if_false]
  exact ⟨_, _, (System.Reaches.start hinitial).next ⟨_, hstep⟩, rfl⟩

/-- A timeout that is no `int` is refused by the first poll. -/
theorem not_neverRefuses_of_large {config : RuntimeConfig}
    (accepted : validateConfig config = .ok config) (receiver : EpollReceiver)
    (large : config.pollTimeout.toInt > kMaxInt) : ¬ NeverRefuses config receiver := by
  intro h
  obtain ⟨trace, state, hreaches, hpolling⟩ := exists_polling accepted
  obtain ⟨what, hrefused⟩ := (receiver.poll_refuses_iff config.pollTimeout
    { inetPton := fun _ => none, inetNtop := fun _ => none, sendto := fun _ _ => none }
    fun _ => .interrupted).mpr (Or.inr large)
  exact h.2 _ _ hreaches hpolling _ _ _ what hrefused

/-- **An accepted configuration is accepted by everything `run` uses it for exactly if its poll
timeout fits an `int`.** -/
theorem neverRefuses_iff (config valid : RuntimeConfig) (receiver : EpollReceiver)
    (epollCreate1 : Option Nat) (listen : Ipv4Endpoint → Except Exception Ipv4Endpoint)
    (accepted : make config epollCreate1 listen = .ok (valid, receiver)) :
    NeverRefuses valid receiver ↔ config.pollTimeout.toInt ≤ kMaxInt := by
  have hvalid := make_eq_ok accepted
  obtain ⟨rfl, _, htimeout, _⟩ := validateConfig_eq_ok hvalid
  constructor
  · intro h
    by_contra hlarge
    exact not_neverRefuses_of_large hvalid receiver (Int.not_le.mp hlarge) h
  · intro hfits
    obtain ⟨state, hstart, _⟩ := start_of_accepted hvalid receiver
    refine ⟨fun what hrefused => ?_, fun _ _ _ _ receiver calls epollWait what hrefused => ?_⟩
    · rw [hstart] at hrefused
      cases hrefused
    · rcases (receiver.poll_refuses_iff valid.pollTimeout calls epollWait).mp ⟨what, hrefused⟩ with
        hnegative | hlarge
      · exact Int.lt_irrefl _ (Int.lt_trans hnegative htimeout)
      · exact absurd hfits (Int.not_le.mpr hlarge)

/-- The longest timeout that is polled. -/
theorem neverRefuses_iff_longest :
    NeverRefuses { pollTimeout := 2147483647 }
        { maxDatagramsPerListenerPerPoll := 64
          listeners := [{ address := "0.0.0.0", port := 9000#16 }] } ↔
      (2147483647 : BitVec 64).toInt ≤ kMaxInt :=
  neverRefuses_iff { pollTimeout := 2147483647 } _ _ (some 3) .ok rfl

/-- One millisecond more: the constructor accepts it, and the first poll throws. -/
theorem longTimeout_refused :
    make { pollTimeout := 2147483648 } (some 3) .ok =
        .ok ({ pollTimeout := 2147483648 },
          { maxDatagramsPerListenerPerPoll := 64
            listeners := [{ address := "0.0.0.0", port := 9000#16 }] }) ∧
      ¬ NeverRefuses { pollTimeout := 2147483648 }
        { maxDatagramsPerListenerPerPoll := 64
          listeners := [{ address := "0.0.0.0", port := 9000#16 }] } := by
  have hmade : make { pollTimeout := 2147483648 } (some 3) .ok =
      .ok ({ pollTimeout := 2147483648 },
        { maxDatagramsPerListenerPerPoll := 64
          listeners := [{ address := "0.0.0.0", port := 9000#16 }] }) := rfl
  exact ⟨hmade, not_neverRefuses_of_large (make_eq_ok hmade) _ (by decide)⟩

end Run

end Driveflow.Runtime

import Driveflow.Simulator.SensorSimulator

/-!
# One batch, and the stop requests around it

A batch goes out packet by packet. Either all of it goes out and every answer of the stop predicate
on the way was no (`Quiet`), or some answer was yes (`Heard`) and what went out are the copies of
its first packets, whole (`Sends`). The counters of what was sent count the datagrams sent at every
point (`Counted`).
-/

namespace Driveflow.Simulator

open Library Net Protocol

/-- The datagrams of a packet, in the order in which they go out. -/
def copies (packet : PendingPacket) : List SentDatagram :=
  { packet, duplicateCopy := false } ::
    if packet.duplicate then [{ packet, duplicateCopy := true }] else []

namespace Session

/-- No answer of the stop predicate so far was yes. -/
def Quiet (stop : StopPredicate) (session : Session) : Prop :=
  ∀ call, call < session.stopCalls → stop call = false

/-- Some answer of the stop predicate so far was yes. -/
def Heard (stop : StopPredicate) (session : Session) : Prop :=
  ∃ call, call < session.stopCalls ∧ stop call = true

/-- A stop predicate that stays true. -/
def Steady (stop : StopPredicate) : Prop :=
  ∀ call later, call ≤ later → stop call = true → stop later = true

/-- What has been heard once is heard at the next call. -/
theorem Heard.again {stop : StopPredicate} {session : Session} (h : session.Heard stop)
    (steady : Steady stop) : (session.stopRequested stop).1 = true := by
  obtain ⟨call, hcall, hyes⟩ := h
  exact steady call session.stopCalls (Nat.le_of_lt hcall) hyes

/-- What sending a batch leaves alone. -/
def books (session : Session) : BitVec 64 × BitVec 64 × BitVec 64 × Nat :=
  (session.summary.packetsGenerated, session.summary.packetsDropped,
    session.summary.reorderEvents, session.timestampsRead)

/-- The counters of what was sent count the datagrams sent. -/
structure Counted (session : Session) : Prop where
  sent : session.summary.packetsSent = BitVec.ofNat 64 session.sent.length
  duplicates : session.summary.duplicatePacketsSent =
    BitVec.ofNat 64 (session.sent.countP fun datagram => datagram.duplicateCopy)
  corrupted : session.summary.corruptedPacketsSent =
    BitVec.ofNat 64 (session.sent.countP fun datagram => datagram.packet.corrupted)

/-! ## Waiting -/

/-- What asking and waiting do to a session, with so many delays begun. -/
structure Waits (stop : StopPredicate) (delays : Nat) (before after : Session) (stopped : Bool) :
    Prop where
  sent : after.sent = before.sent
  books : after.books = before.books
  counted : before.Counted → after.Counted
  delayed : after.summary.delayedPackets =
    before.summary.delayedPackets + BitVec.ofNat 64 delays
  calls : before.stopCalls ≤ after.stopCalls
  quiet : stopped = false → before.Quiet stop → after.Quiet stop
  heard : stopped = true → after.Heard stop

variable {stop : StopPredicate} {session : Session}

/-- Asking the predicate is one more call, and its answer is heard. -/
theorem waits_stopRequested (stop : StopPredicate) (session : Session) :
    Waits stop 0 session (session.stopRequested stop).2 (session.stopRequested stop).1 where
  sent := rfl
  books := rfl
  counted h := ⟨h.sent, h.duplicates, h.corrupted⟩
  delayed := (BitVec.add_zero _).symm
  calls := Nat.le_succ _
  quiet hno hquiet call hcall := by
    rcases Nat.lt_succ_iff_lt_or_eq.mp hcall with hearlier | rfl
    · exact hquiet call hearlier
    · exact hno
  heard hyes := ⟨session.stopCalls, Nat.lt_succ_self _, hyes⟩

/-- Waiting goes on after an answer that was no. -/
theorem Waits.trans {before between after : Session} {delays later : Nat} {stopped : Bool}
    (first : Waits stop delays before between false) (next : Waits stop later between after stopped) :
    Waits stop (delays + later) before after stopped where
  sent := next.sent.trans first.sent
  books := next.books.trans first.books
  counted h := next.counted (first.counted h)
  delayed := by rw [next.delayed, first.delayed, BitVec.add_assoc, BitVec.ofNat_add]
  calls := Nat.le_trans first.calls next.calls
  quiet hno hquiet := next.quiet hno (first.quiet rfl hquiet)
  heard := next.heard

/-- The rounds of a wait end with the first answer that is yes. -/
theorem waits_waitRounds (stop : StopPredicate) (ahead : Nat) (session : Session) :
    Waits stop 0 session (waitRounds stop ahead session).2 (waitRounds stop ahead session).1 := by
  induction ahead generalizing session with
  | zero => exact waits_stopRequested stop session
  | succ ahead ih =>
    have hasked := waits_stopRequested stop session
    unfold waitRounds
    dsimp only
    cases hanswer : (session.stopRequested stop).1 with
    | true =>
      rw [if_pos rfl, hanswer]
      rwa [hanswer] at hasked
    | false =>
      rw [if_neg Bool.false_ne_true]
      rw [hanswer] at hasked
      exact hasked.trans (ih (session.stopRequested stop).2)

/-- A wait does what its rounds do. -/
theorem waits_waitUntilOrStop (environment : Environment) (stop : StopPredicate)
    (session : Session) :
    Waits stop 0 session (session.waitUntilOrStop environment stop).2
      (session.waitUntilOrStop environment stop).1 := by
  obtain ⟨sent, books, counted, delayed, calls, quiet, heard⟩ :=
    waits_waitRounds stop (environment.naps session.waits)
      { session with waits := session.waits + 1 }
  exact ⟨sent, books, fun h => counted ⟨h.sent, h.duplicates, h.corrupted⟩, delayed, calls,
    quiet, heard⟩

/-- The packet waits before it goes out. -/
def isDelayed (packet : PendingPacket) : Bool := packet.delay > 0

/-- A delayed packet counts its delay before it waits. -/
theorem waits_injectDelay (environment : Environment) (stop : StopPredicate)
    (packet : PendingPacket) (session : Session) :
    Waits stop (if isDelayed packet then 1 else 0) session
      (injectDelay environment stop packet session).2
      (injectDelay environment stop packet session).1 := by
  unfold injectDelay isDelayed
  by_cases hdelay : packet.delay > 0
  · rw [if_pos hdelay, if_pos (decide_eq_true hdelay)]
    obtain ⟨sent, books, counted, delayed, calls, quiet, heard⟩ :=
      waits_waitUntilOrStop environment stop
        { session with summary :=
          { session.summary with delayedPackets := session.summary.delayedPackets + 1 } }
    refine ⟨sent, books, fun h => counted ⟨h.sent, h.duplicates, h.corrupted⟩, ?_, calls, quiet,
      heard⟩
    exact delayed.trans (BitVec.add_zero _)
  · rw [if_neg hdelay, if_neg (by rwa [decide_eq_true_eq])]
    exact ⟨rfl, rfl, id, (BitVec.add_zero _).symm, Nat.le_refl _, fun _ h => h, nofun⟩

/-! ## Sending -/

variable {environment : Environment} {config : SimulatorConfig}

/-- A copy is counted when it is sent. -/
theorem Counted.sendCopy {packet : PendingPacket} {duplicateCopy : Bool} (h : session.Counted) :
    Counted { session with
      summary := countCopy packet duplicateCopy session.summary
      sent := session.sent ++ [{ packet, duplicateCopy }] } where
  sent := by
    change session.summary.packetsSent + 1 = _
    rw [h.sent, List.length_append, BitVec.ofNat_add]
    rfl
  duplicates := by
    change (if duplicateCopy = true then session.summary.duplicatePacketsSent + 1 else _) = _
    rw [h.duplicates, List.countP_append, BitVec.ofNat_add]
    cases duplicateCopy with
    | true => rfl
    | false => exact (BitVec.add_zero _).symm
  corrupted := by
    change (if packet.corrupted = true then session.summary.corruptedPacketsSent + 1 else _) = _
    rw [h.corrupted, List.countP_append, BitVec.ofNat_add, List.countP_singleton]
    cases packet.corrupted with
    | true => rfl
    | false => exact (BitVec.add_zero _).symm

/-- What one packet does to a session. -/
structure SendsPacket (packet : PendingPacket) (before after : Session) : Prop where
  sent : after.sent = before.sent ++ copies packet
  books : after.books = before.books
  counted : before.Counted → after.Counted
  delayed : after.summary.delayedPackets = before.summary.delayedPackets
  calls : after.stopCalls = before.stopCalls

/-- A packet that is sent is sent once, or twice if it is duplicated. -/
theorem sendPacket_eq_ok {packet : PendingPacket} {after : Session}
    (h : sendPacket environment config packet session = .ok after) :
    SendsPacket packet session after := by
  obtain ⟨first, hfirst, hsecond⟩ := bind_eq_ok.mp h
  obtain ⟨_, _, heq⟩ := bind_eq_ok.mp hfirst
  obtain rfl := Except.ok.inj heq
  cases hduplicate : packet.duplicate with
  | false =>
    rw [hduplicate] at hsecond
    obtain rfl := Except.ok.inj hsecond
    exact ⟨by rw [copies, hduplicate]; rfl, rfl, Counted.sendCopy, rfl, rfl⟩
  | true =>
    rw [hduplicate] at hsecond
    obtain ⟨_, _, heq⟩ := bind_eq_ok.mp hsecond
    obtain rfl := Except.ok.inj heq
    refine ⟨?_, rfl, fun h => Counted.sendCopy (Counted.sendCopy h), rfl, rfl⟩
    rw [copies, hduplicate]
    exact List.append_assoc _ _ _

/-- What a batch does to a session; `complete` when all of it went out. -/
structure Sends (stop : StopPredicate) (packets : List PendingPacket) (before after : Session)
    (complete : Bool) : Prop where
  sent : ∃ gone left, packets = gone ++ left ∧ (left = [] ↔ complete = true) ∧
    after.sent = before.sent ++ gone.flatMap copies
  books : after.books = before.books
  counted : before.Counted → after.Counted
  delayed : complete = true → after.summary.delayedPackets =
    before.summary.delayedPackets + BitVec.ofNat 64 (packets.countP isDelayed)
  calls : before.stopCalls ≤ after.stopCalls
  quiet : complete = true → before.Quiet stop → after.Quiet stop
  heard : complete = false → after.Heard stop

/-- A wait before the first packet was stopped. -/
theorem Waits.sends {packet : PendingPacket} {packets : List PendingPacket} {delays : Nat}
    {before after : Session} (h : Waits stop delays before after true) :
    Sends stop (packet :: packets) before after false where
  sent := ⟨[], packet :: packets, rfl, ⟨nofun, nofun⟩, h.sent.trans (List.append_nil _).symm⟩
  books := h.books
  counted := h.counted
  delayed := nofun
  calls := h.calls
  quiet := nofun
  heard _ := h.heard rfl

/-- A packet goes out, and then the rest of the batch. -/
theorem Sends.cons {packet : PendingPacket} {packets : List PendingPacket}
    {before ready gone after : Session} {complete : Bool}
    (wait : Waits stop (if isDelayed packet then 1 else 0) before ready false)
    (packetSent : SendsPacket packet ready gone)
    (rest : Sends stop packets gone after complete) :
    Sends stop (packet :: packets) before after complete where
  sent := by
    obtain ⟨sent, left, rfl, hcomplete, hsent⟩ := rest.sent
    refine ⟨packet :: sent, left, rfl, hcomplete, ?_⟩
    rw [hsent, packetSent.sent, wait.sent, List.append_assoc, List.flatMap_cons]
  books := rest.books.trans (packetSent.books.trans wait.books)
  counted h := rest.counted (packetSent.counted (wait.counted h))
  delayed h := by
    rw [rest.delayed h, packetSent.delayed, wait.delayed, List.countP_cons, BitVec.add_assoc,
      ← BitVec.ofNat_add, Nat.add_comm]
  calls := by
    have hcalls := rest.calls
    rw [packetSent.calls] at hcalls
    exact Nat.le_trans wait.calls hcalls
  quiet h hquiet := by
    refine rest.quiet h ?_
    unfold Quiet
    rw [packetSent.calls]
    exact wait.quiet rfl hquiet
  heard := rest.heard

/-- **What `send_batch` sends**: whole packets from the first on, all of them unless it was
stopped. -/
theorem sendPackets_eq_ok {packets : List PendingPacket} {complete : Bool} {after : Session}
    (h : sendPackets environment config stop packets session = .ok (complete, after)) :
    Sends stop packets session after complete := by
  induction packets generalizing session with
  | nil =>
    obtain ⟨rfl, rfl⟩ := Prod.mk.inj (Except.ok.inj h)
    exact ⟨⟨[], [], rfl, ⟨fun _ => rfl, fun _ => rfl⟩, (List.append_nil _).symm⟩, rfl, id,
      fun _ => (BitVec.add_zero _).symm, Nat.le_refl _, fun _ h => h, nofun⟩
  | cons packet packets ih =>
    have hasked := waits_stopRequested stop session
    unfold sendPackets at h
    dsimp only at h
    cases hanswer : (session.stopRequested stop).1 with
    | true =>
      rw [hanswer, if_pos rfl] at h
      obtain ⟨rfl, rfl⟩ := Prod.mk.inj (Except.ok.inj h)
      rw [hanswer] at hasked
      exact hasked.sends
    | false =>
      rw [hanswer, if_neg Bool.false_ne_true] at h
      rw [hanswer] at hasked
      have hdelayed := hasked.trans
        (waits_injectDelay environment stop packet (session.stopRequested stop).2)
      rw [Nat.zero_add] at hdelayed
      cases hstopped :
          (injectDelay environment stop packet (session.stopRequested stop).2).1 with
      | true =>
        rw [hstopped, if_pos rfl] at h
        obtain ⟨rfl, rfl⟩ := Prod.mk.inj (Except.ok.inj h)
        rw [hstopped] at hdelayed
        exact hdelayed.sends
      | false =>
        rw [hstopped, if_neg Bool.false_ne_true] at h
        rw [hstopped] at hdelayed
        obtain ⟨gone, hgone, hrest⟩ := bind_eq_ok.mp h
        exact .cons hdelayed (sendPacket_eq_ok hgone) (ih hrest)

/-! ## A network that takes every datagram -/

/-- Every datagram that fits is sent, whole. -/
def Delivers (environment : Environment) (config : SimulatorConfig) : Prop :=
  ∀ bytes, bytes.length ≤ kMaxUdpPayloadSize →
    sendTo environment.calls bytes config.destination = .ok ()

/-- A datagram that fits is delivered. -/
theorem sendCopy_ok (delivers : Delivers environment config) {packet : PendingPacket}
    (fits : packet.bytes.length ≤ kMaxUdpPayloadSize) (duplicateCopy : Bool) (session : Session) :
    ∃ after, sendCopy environment config packet duplicateCopy session = .ok after := by
  rw [sendCopy, delivers packet.bytes fits]
  exact ⟨_, rfl⟩

/-- So are both copies of a duplicated packet. -/
theorem sendPacket_ok (delivers : Delivers environment config) {packet : PendingPacket}
    (fits : packet.bytes.length ≤ kMaxUdpPayloadSize) (session : Session) :
    ∃ after, sendPacket environment config packet session = .ok after := by
  obtain ⟨first, hfirst⟩ := sendCopy_ok delivers fits false session
  rw [sendPacket, hfirst]
  change ∃ after, (if packet.duplicate = true then _ else _) = Except.ok after
  cases packet.duplicate with
  | true => exact sendCopy_ok delivers fits true first
  | false => exact ⟨first, rfl⟩

/-- No batch of packets that fit throws. -/
theorem sendPackets_ok (delivers : Delivers environment config) (stop : StopPredicate)
    {packets : List PendingPacket}
    (fits : ∀ packet ∈ packets, packet.bytes.length ≤ kMaxUdpPayloadSize) (session : Session) :
    ∃ complete after,
      sendPackets environment config stop packets session = .ok (complete, after) := by
  induction packets generalizing session with
  | nil => exact ⟨true, session, rfl⟩
  | cons packet packets ih =>
    unfold sendPackets
    dsimp only
    split
    · exact ⟨_, _, rfl⟩
    · split
      · exact ⟨_, _, rfl⟩
      · obtain ⟨gone, hgone⟩ := sendPacket_ok delivers (fits packet List.mem_cons_self)
          (injectDelay environment stop packet (session.stopRequested stop).2).2
        rw [hgone]
        exact ih (fun packet h => fits packet (List.mem_cons_of_mem _ h)) gone

end Session

end Driveflow.Simulator

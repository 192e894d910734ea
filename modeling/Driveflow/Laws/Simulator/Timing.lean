import Driveflow.Laws.Simulator.Emission
import Driveflow.Simulator.TimedSimulator

/-!
# The clock only decides the waits and the timestamps

A timed run is a run of the untimed simulator whose environment recalls what the clock decided
(`timed_run_refines`): how many rounds each wait took, and what each timestamp was. So whatever
holds of all untimed runs holds of the timed ones.

Every step of a timed session comes with its untimed counterpart (`Refines`), in every environment
that recalls the record at its end. The record only grows, so an environment that recalls the end of
a run recalls each of its steps.
-/

namespace Driveflow.Simulator

open Library Net Protocol

namespace TimedSession

/-! ## The record -/

/-- There is one entry for each wait and one for each timestamp. -/
structure Kept (timed : TimedSession) : Prop where
  naps : timed.naps.length = timed.session.waits
  timestamps : timed.timestamps.length = timed.session.timestampsRead

/-- The environment says what the clock has decided. -/
structure Recalls (environment : Environment) (machine : Machine) (timed : TimedSession) :
    Prop where
  calls : environment.calls = machine.calls
  naps : ∀ k rounds, timed.naps[k]? = some rounds → environment.naps k = rounds
  timestamps : ∀ k timestamp, timed.timestamps[k]? = some timestamp →
    environment.timestamps k = timestamp

/-- A later state of a session. -/
structure Follows (before after : TimedSession) : Prop where
  naps : before.naps <+: after.naps
  timestamps : before.timestamps <+: after.timestamps
  kept : before.Kept → after.Kept

/-- A step that the untimed session takes too, in every environment that recalls it. -/
structure Refines (machine : Machine) (before after : TimedSession)
    (untimed : Environment → Prop) : Prop extends Follows before after where
  untimed : before.Kept → ∀ environment, Recalls environment machine after → untimed environment

variable {machine : Machine} {environment : Environment} {config : SimulatorConfig}
  {stop : StopPredicate} {timed before between after : TimedSession}
  {untimed first next : Environment → Prop}

/-- What follows a later state follows the earlier one. -/
theorem Follows.trans (h : Follows before between) (h' : Follows between after) :
    Follows before after :=
  ⟨h.naps.trans h'.naps, h.timestamps.trans h'.timestamps, h'.kept ∘ h.kept⟩

/-- An environment that recalls the later state recalls the earlier one. -/
theorem Recalls.of_follows (recalls : Recalls environment machine after)
    (h : Follows before after) : Recalls environment machine before where
  calls := recalls.calls
  naps k rounds hk := by
    obtain ⟨later, hlater⟩ := h.naps
    refine recalls.naps k rounds ?_
    rw [← hlater, List.getElem?_append_left (List.getElem?_eq_some_iff.mp hk).1, hk]
  timestamps k timestamp hk := by
    obtain ⟨later, hlater⟩ := h.timestamps
    refine recalls.timestamps k timestamp ?_
    rw [← hlater, List.getElem?_append_left (List.getElem?_eq_some_iff.mp hk).1, hk]

/-- Two refined steps after each other are taken by the untimed session as well. -/
theorem Refines.trans (h : Refines machine before between first)
    (h' : Refines machine between after next) :
    Refines machine before after fun environment => first environment ∧ next environment where
  toFollows := h.toFollows.trans h'.toFollows
  untimed kept environment recalls :=
    ⟨h.untimed kept environment (recalls.of_follows h'.toFollows),
      h'.untimed (h.kept kept) environment recalls⟩

/-- A refined step may be described by what follows from it. -/
theorem Refines.imp (h : Refines machine before after first)
    (himp : ∀ environment : Environment, environment.calls = machine.calls →
      first environment → next environment) :
    Refines machine before after next where
  toFollows := h.toFollows
  untimed kept environment recalls :=
    himp environment recalls.calls (h.untimed kept environment recalls)

/-- What leaves the record alone. -/
theorem refines_of_eq (naps : after.naps = before.naps)
    (timestamps : after.timestamps = before.timestamps)
    (waits : after.session.waits = before.session.waits)
    (read : after.session.timestampsRead = before.session.timestampsRead)
    (h : ∀ environment : Environment, environment.calls = machine.calls → untimed environment) :
    Refines machine before after untimed where
  naps := naps ▸ List.prefix_rfl
  timestamps := timestamps ▸ List.prefix_rfl
  kept kept := ⟨by rw [naps, waits, kept.naps], by rw [timestamps, read, kept.timestamps]⟩
  untimed _ environment recalls := h environment recalls.calls

/-- Counting leaves the record alone. -/
theorem refines_summary (machine : Machine) (timed : TimedSession) (summary : SimulationSummary) :
    Refines machine timed { timed with session := { timed.session with summary } } fun _ => True :=
  refines_of_eq rfl rfl rfl rfl fun _ _ => trivial

/-! ## Waiting -/

/-- **The loop of a wait** records the rounds in which the untimed one takes the same answers. -/
theorem waitLoop_refines {deadline : Int} {rounds : Nat} {stopped : Bool}
    (h : timed.waitLoop machine stop deadline rounds = .ok (stopped, after)) :
    ∃ ahead, Session.waitRounds stop ahead timed.session = (stopped, after.session) ∧
      after.naps = timed.naps ++ [rounds + ahead] ∧ after.timestamps = timed.timestamps := by
  fun_induction waitLoop machine stop deadline rounds timed with
  | case1 rounds timed asked asks =>
    obtain ⟨rfl, rfl⟩ := Prod.mk.inj (Except.ok.inj h)
    exact ⟨0, Prod.ext asks rfl, rfl, rfl⟩
  | case2 | case4 => cases h
  | case3 rounds timed asked goes reading fits reached =>
    obtain ⟨rfl, rfl⟩ := Prod.mk.inj (Except.ok.inj h)
    exact ⟨0, Prod.ext (eq_false_of_ne_true goes) rfl, rfl, rfl⟩
  | case5 rounds timed asked goes reading fits ahead wakeup fits' clamped ih =>
    obtain ⟨later, hsession, hnaps, htimestamps⟩ := ih h
    refine ⟨later + 1, ?_, ?_, htimestamps⟩
    · rw [Session.waitRounds, ← hsession]
      exact if_neg goes
    · rw [hnaps, Nat.add_assoc, Nat.add_comm 1 later]
      rfl

/-- What waiting leaves alone. -/
theorem waitRounds_counters (stop : StopPredicate) (ahead : Nat) (session : Session) :
    (Session.waitRounds stop ahead session).2.waits = session.waits ∧
      (Session.waitRounds stop ahead session).2.timestampsRead = session.timestampsRead := by
  induction ahead generalizing session with
  | zero => exact ⟨rfl, rfl⟩
  | succ ahead ih =>
    rw [Session.waitRounds]
    split
    · exact ⟨rfl, rfl⟩
    · exact ih (session.stopRequested stop).2

/-- A wait takes the answers and the rounds of the untimed one. -/
theorem waitUntilOrStop_refines {deadline : Int} {stopped : Bool}
    (h : timed.waitUntilOrStop machine stop deadline = .ok (stopped, after)) :
    Refines machine timed after fun environment =>
      timed.session.waitUntilOrStop environment stop = (stopped, after.session) := by
  obtain ⟨ahead, hsession, hnaps, htimestamps⟩ := waitLoop_refines h
  rw [Nat.zero_add] at hnaps
  have hcounters := waitRounds_counters stop ahead
    { timed.session with waits := timed.session.waits + 1 }
  rw [hsession] at hcounters
  constructor
  · constructor
    · exact ⟨[ahead], hnaps.symm⟩
    · exact ⟨[], (List.append_nil _).trans htimestamps.symm⟩
    · intro kept
      constructor
      · rw [hnaps, List.length_append, kept.naps]
        exact hcounters.1.symm
      · rw [htimestamps, kept.timestamps]
        exact hcounters.2.symm
  · intro kept environment recalls
    have hrounds : environment.naps timed.session.waits = ahead := by
      apply recalls.naps
      rw [hnaps, ← kept.naps, List.getElem?_concat_length]
    rw [Session.waitUntilOrStop, hrounds]
    exact hsession

/-- So does an injected delay. -/
theorem injectDelay_refines {packet : PendingPacket} {stopped : Bool}
    (h : timed.injectDelay machine stop packet = .ok (stopped, after)) :
    Refines machine timed after fun environment =>
      timed.session.injectDelay environment stop packet = (stopped, after.session) := by
  have hbegun : Refines machine timed (timed.beginDelay machine packet) fun _ => True :=
    refines_of_eq rfl rfl rfl rfl fun _ _ => trivial
  unfold injectDelay at h
  unfold Session.injectDelay
  split at h
  next hdelay =>
    dsimp only at h
    split at h
    · cases h
    · refine (hbegun.trans (waitUntilOrStop_refines h)).imp fun environment _ hboth => ?_
      exact (if_pos hdelay).trans hboth.2
  next hnone =>
    obtain ⟨rfl, rfl⟩ := Prod.mk.inj (Except.ok.inj h)
    exact refines_of_eq rfl rfl rfl rfl fun _ _ => if_neg hnone

/-! ## Sending -/

/-- A copy sent at its time is a copy sent. -/
theorem sendCopy_refines {packet : PendingPacket} {duplicateCopy : Bool}
    (h : timed.sendCopy machine config packet duplicateCopy = .ok after) :
    Refines machine timed after fun environment =>
      timed.session.sendCopy environment config packet duplicateCopy = .ok after.session := by
  obtain ⟨_, hsent, heq⟩ := bind_eq_ok.mp h
  obtain rfl := Except.ok.inj heq
  refine refines_of_eq rfl rfl rfl rfl fun environment hcalls => ?_
  rw [Session.sendCopy, hcalls, raised_eq_ok.mp hsent]
  rfl

/-- A packet and its duplicate are sent as the untimed session sends them. -/
theorem sendPacket_refines {packet : PendingPacket}
    (h : timed.sendPacket machine config packet = .ok after) :
    Refines machine timed after fun environment =>
      timed.session.sendPacket environment config packet = .ok after.session := by
  obtain ⟨once, hfirst, hsecond⟩ := bind_eq_ok.mp h
  have hcopy := sendCopy_refines hfirst
  split at hsecond
  next hduplicate =>
    refine (hcopy.trans (sendCopy_refines hsecond)).imp fun environment _ hboth => ?_
    rw [Session.sendPacket, hboth.1]
    exact (if_pos hduplicate).trans hboth.2
  next hsingle =>
    obtain rfl := Except.ok.inj hsecond
    refine hcopy.imp fun environment _ hone => ?_
    rw [Session.sendPacket, hone]
    exact if_neg hsingle

/-- The untimed session asks the same stop calls between the packets, sits through the same naps,
and sends as many. -/
theorem sendPackets_refines {packets : List PendingPacket} {complete : Bool}
    (h : timed.sendPackets machine config stop packets = .ok (complete, after)) :
    Refines machine timed after fun environment =>
      timed.session.sendPackets environment config stop packets =
        .ok (complete, after.session) := by
  induction packets generalizing timed with
  | nil =>
    obtain ⟨rfl, rfl⟩ := Prod.mk.inj (Except.ok.inj h)
    exact refines_of_eq rfl rfl rfl rfl fun _ _ => rfl
  | cons packet packets ih =>
    have hasked : Refines machine timed (timed.stopRequested stop).2 fun _ => True :=
      refines_of_eq rfl rfl rfl rfl fun _ _ => trivial
    rw [sendPackets] at h
    split at h
    next hyes =>
      obtain ⟨rfl, rfl⟩ := Prod.mk.inj (Except.ok.inj h)
      refine hasked.imp fun environment _ _ => ?_
      rw [Session.sendPackets]
      exact if_pos hyes
    next hno =>
      obtain ⟨⟨stopped, delayed⟩, hdelays, hsends⟩ := bind_eq_ok.mp h
      have hdelayed := hasked.trans (injectDelay_refines hdelays)
      split at hsends
      next hstopped =>
        obtain ⟨rfl, rfl⟩ := Prod.mk.inj (Except.ok.inj hsends)
        refine hdelayed.imp fun environment _ hdelay => ?_
        rw [Session.sendPackets]
        refine (if_neg hno).trans ?_
        dsimp only
        rw [show (timed.session.stopRequested stop).2 = (timed.stopRequested stop).2.session from rfl,
          hdelay.2]
        exact if_pos hstopped
      next hgoes =>
        obtain ⟨gone, hgone, hrest⟩ := bind_eq_ok.mp hsends
        refine ((hdelayed.trans (sendPacket_refines hgone)).trans (ih hrest)).imp
          fun environment _ hall => ?_
        rw [Session.sendPackets]
        refine (if_neg hno).trans ?_
        dsimp only
        rw [show (timed.session.stopRequested stop).2 = (timed.stopRequested stop).2.session from rfl,
          hall.1.1.2]
        refine (if_neg hgoes).trans ?_
        rw [hall.1.2]
        exact hall.2

/-- A batch is counted as the untimed session counts it, complete or not. -/
theorem sendBatch_refines {batch : InjectionBatch} {complete : Bool}
    (h : timed.sendBatch machine config stop batch = .ok (complete, after)) :
    Refines machine timed after fun environment =>
      timed.session.sendBatch environment config stop batch = .ok (complete, after.session) := by
  obtain ⟨⟨whole, sent⟩, hsend, hrest⟩ := bind_eq_ok.mp h
  have hpackets := sendPackets_refines hsend
  cases whole with
  | true =>
    obtain ⟨rfl, rfl⟩ := Prod.mk.inj (Except.ok.inj hrest)
    refine (hpackets.trans (refines_summary machine sent _)).imp fun environment _ hboth => ?_
    rw [Session.sendBatch, hboth.1]
    rfl
  | false =>
    obtain ⟨rfl, rfl⟩ := Prod.mk.inj (Except.ok.inj hrest)
    refine hpackets.imp fun environment _ hone => ?_
    rw [Session.sendBatch, hone]
    rfl

/-! ## Generating -/

/-- A packet was generated at a time that fits: its bytes, and what is recorded. -/
theorem generate_eq_ok {packet : Bytes} (h : timed.generate machine config = .ok (packet, after)) :
    encodeSample config (timed.session.summary.packetsGenerated + 1)
        (BitVec.ofInt 64 (timed.elapse machine).now) = .ok packet ∧
      after = { timed.elapse machine with
        timestamps := timed.timestamps ++ [BitVec.ofInt 64 (timed.elapse machine).now]
        session := { timed.session with
          timestampsRead := timed.session.timestampsRead + 1
          summary := { timed.session.summary with
            packetsGenerated := timed.session.summary.packetsGenerated + 1 } } } := by
  unfold generate at h
  dsimp only at h
  split at h
  · cases h
  · obtain ⟨bytes, hencoded, heq⟩ := bind_eq_ok.mp h
    obtain ⟨rfl, rfl⟩ := Prod.mk.inj (Except.ok.inj heq)
    exact ⟨raised_eq_ok.mp hencoded, rfl⟩

/-- The untimed session generates the same packet, from the timestamp that is recalled. -/
theorem generate_refines {packet : Bytes} (h : timed.generate machine config = .ok (packet, after)) :
    Refines machine timed after fun environment =>
      timed.session.generate config environment = .ok (packet, after.session) := by
  obtain ⟨hencoded, rfl⟩ := generate_eq_ok h
  constructor
  · constructor
    · exact List.prefix_rfl
    · exact List.prefix_append _ _
    · intro kept
      exact ⟨kept.naps, by rw [List.length_append]; exact congrArg (· + 1) kept.timestamps⟩
  · intro kept environment recalls
    have htimestamp : environment.timestamps timed.session.timestampsRead =
        BitVec.ofInt 64 (timed.elapse machine).now := by
      apply recalls.timestamps
      show (timed.timestamps ++ [_])[timed.session.timestampsRead]? = _
      rw [← kept.timestamps, List.getElem?_concat_length]
    rw [Session.generate]
    dsimp only
    rw [htimestamp, hencoded]
    rfl

end TimedSession

/-! ## The loop -/

namespace TimedSimulation

open Simulation TimedSession

variable {machine : Machine} {config : SimulatorConfig} {period : BitVec 64}
  {stop : StopPredicate} {simulation next : TimedSimulation}

/-- The simulation without its clock. -/
def untimed (simulation : TimedSimulation) : Simulation :=
  { injector := simulation.injector, session := simulation.timed.session }

/-- A pass of the untimed loop from its batch on. -/
theorem untimed_pass_eq {environment : Environment} {packet : Bytes} {session : Session}
    (simulation : Simulation)
    (h : simulation.session.generate config environment = .ok (packet, session)) :
    simulation.pass environment config stop =
      (fun processed : InjectionBatch × FaultInjector =>
        Session.sendBatch environment config stop processed.1
          { session with summary :=
            { session.summary with
              packetsDropped := session.summary.packetsDropped + processed.1.packetsDropped } } >>=
          afterBatch environment config stop processed.2)
        (simulation.injector.process (simulation.session.summary.packetsGenerated + 1) packet) := by
  unfold Simulation.pass
  rw [h]
  rfl

/-- A pass ends for the reason that it has in the untimed simulation. -/
theorem pass_refines {ending : Pass}
    (h : simulation.pass machine config period stop = .ok (ending, next)) :
    Refines machine simulation.timed next.timed fun environment =>
      simulation.untimed.pass environment config stop = .ok (ending, next.untimed) := by
  obtain ⟨⟨packet, generated⟩, hgenerate, hrest⟩ := bind_eq_ok.mp h
  dsimp only at hrest
  generalize hprocess : simulation.injector.process
    (simulation.timed.session.summary.packetsGenerated + 1) packet = processed at hrest
  obtain ⟨⟨complete, sent⟩, hbatch, hend⟩ := bind_eq_ok.mp hrest
  have hsent := ((generate_refines hgenerate).trans (refines_summary machine generated _)).trans
    (sendBatch_refines hbatch)
  have hpass {environment : Environment}
      (hall : (simulation.timed.session.generate config environment =
        .ok (packet, generated.session) ∧ True) ∧
        (generated.countDropped processed.1).session.sendBatch environment config stop processed.1 =
          .ok (complete, sent.session)) :
      simulation.untimed.pass environment config stop =
        afterBatch environment config stop processed.2 (complete, sent.session) := by
    have hbatched : simulation.untimed.injector.process
        (simulation.untimed.session.summary.packetsGenerated + 1) packet = processed := hprocess
    rw [untimed_pass_eq simulation.untimed hall.1.1, hbatched]
    exact congrArg (· >>= _) hall.2
  split at hend
  next hcut =>
    obtain ⟨rfl, rfl⟩ := Prod.mk.inj (Except.ok.inj hend)
    refine hsent.imp fun environment _ hall => (hpass hall).trans ?_
    exact if_pos hcut
  next hwhole =>
    split at hend
    next hreached =>
      obtain ⟨rfl, rfl⟩ := Prod.mk.inj (Except.ok.inj hend)
      refine hsent.imp fun environment _ hall => (hpass hall).trans ?_
      exact (if_neg hwhole).trans (if_pos hreached)
    next hgoes =>
      split at hend
      · cases hend
      · obtain ⟨⟨stopped, waited⟩, hwaits, hdone⟩ := bind_eq_ok.mp hend
        obtain ⟨rfl, rfl⟩ := Prod.mk.inj (Except.ok.inj hdone)
        refine (hsent.trans (waitUntilOrStop_refines hwaits)).imp
          fun environment _ hall => (hpass hall.1).trans ?_
        refine (if_neg hwhole).trans ((if_neg hgoes).trans ?_)
        rw [hall.2]
        rfl

/-- So do any number of passes. -/
theorem loop_refines {passes : Nat} {ending : Pass}
    (h : simulation.loop machine config period stop passes = .ok (ending, next)) :
    Refines machine simulation.timed next.timed fun environment =>
      simulation.untimed.loop environment config stop passes = .ok (ending, next.untimed) := by
  induction passes generalizing simulation with
  | zero =>
    obtain ⟨rfl, rfl⟩ := Prod.mk.inj (Except.ok.inj h)
    exact refines_of_eq rfl rfl rfl rfl fun _ _ => rfl
  | succ passes ih =>
    have hasked : Refines machine simulation.timed (simulation.timed.stopRequested stop).2
        fun _ => True := refines_of_eq rfl rfl rfl rfl fun _ _ => trivial
    rw [loop] at h
    dsimp only at h
    split at h
    next hleft =>
      obtain ⟨rfl, rfl⟩ := Prod.mk.inj (Except.ok.inj h)
      refine hasked.imp fun environment _ _ => ?_
      rw [Simulation.loop]
      exact if_pos hleft
    next hgoes =>
      obtain ⟨⟨passed, later⟩, hpass, hrest⟩ := bind_eq_ok.mp h
      have hstep := hasked.trans (pass_refines hpass)
      cases passed with
      | again =>
        refine (hstep.trans (ih hrest)).imp fun environment _ hall => ?_
        rw [Simulation.loop]
        refine (if_neg hgoes).trans ?_
        exact (congrArg (· >>= _) hall.1.2).trans hall.2
      | left stopped =>
        obtain ⟨rfl, rfl⟩ := Prod.mk.inj (Except.ok.inj hrest)
        refine hstep.imp fun environment _ hall => ?_
        rw [Simulation.loop]
        refine (if_neg hgoes).trans ?_
        exact congrArg (· >>= _) hall.2

/-- The held packet is sent, or not, as in the untimed simulation. -/
theorem flush_refines {stopped : Bool} {after : TimedSession}
    (h : simulation.flush machine config stop stopped = .ok after) :
    Refines machine simulation.timed after fun environment =>
      simulation.untimed.flush environment config stop stopped = .ok after.session := by
  have hasked : Refines machine simulation.timed (simulation.timed.stopRequested stop).2
      fun _ => True := refines_of_eq rfl rfl rfl rfl fun _ _ => trivial
  unfold flush at h
  unfold Simulation.flush
  cases stopped with
  | true =>
    obtain rfl := Except.ok.inj h
    exact refines_of_eq rfl rfl rfl rfl fun _ _ => rfl
  | false =>
    rw [if_neg Bool.false_ne_true] at h
    dsimp only at h
    split at h
    next hyes =>
      obtain rfl := Except.ok.inj h
      refine hasked.imp fun environment _ _ => ?_
      exact if_pos hyes
    next hno =>
      obtain ⟨⟨complete, sent⟩, hbatch, heq⟩ := bind_eq_ok.mp h
      obtain rfl := Except.ok.inj heq
      refine (hasked.trans (sendBatch_refines hbatch)).imp fun environment _ hall => ?_
      refine (if_neg hno).trans ?_
      exact congrArg (· >>= _) hall.2

end TimedSimulation

/-! ## The run -/

/-- What a run has come to, without its clock. -/
def TimedOutcome.untimed : TimedOutcome → Outcome
  | .running timed => .running timed.session
  | .returned timed => .returned timed.session

/-- The environment that recalls what the clock has decided. -/
def TimedSession.environment (machine : Machine) (timed : TimedSession) : Environment where
  calls := machine.calls
  opens := machine.opens
  naps k := timed.naps.getD k 0
  timestamps k := timed.timestamps.getD k 0

/-- The environment read off a session recalls it. -/
theorem TimedSession.recalls_environment (machine : Machine) (timed : TimedSession) :
    Recalls (timed.environment machine) machine timed where
  calls := rfl
  naps k rounds h := by
    show timed.naps.getD k 0 = rounds
    rw [List.getD_eq_getElem?_getD, h]
    rfl
  timestamps k timestamp h := by
    show timed.timestamps.getD k 0 = timestamp
    rw [List.getD_eq_getElem?_getD, h]
    rfl

section Run

open TimedSession

variable {machine : Machine} {config : SimulatorConfig} {period : BitVec 64}
  {stop : StopPredicate} {passes : Nat} {outcome : TimedOutcome}

/-- Nothing is recorded before the loop, and nothing is missing. -/
theorem kept_before (machine : Machine) (config : SimulatorConfig) :
    (TimedSimulation.before machine config).timed.Kept := ⟨rfl, rfl⟩

/-- A run that does not throw has gone through its loop and, if that ended, has flushed. -/
theorem runTimed_looped (h : runTimed machine config period (some stop) passes = .ok outcome) :
    validateRuntimeConfig machine.calls config = .ok () ∧ machine.opens = true ∧
      Fits machine.start ∧
      ∃ ending simulation,
        (TimedSimulation.before machine config).loop machine config period stop passes =
          .ok (ending, simulation) ∧
        ((ending = .again ∧ outcome = .running simulation.timed) ∨
          ∃ stopped timed, ending = .left stopped ∧
            simulation.flush machine config stop stopped = .ok timed ∧
            outcome = .returned timed) := by
  obtain ⟨_, hvalid, hrun⟩ := bind_eq_ok.mp h
  refine ⟨raised_eq_ok.mp hvalid, ?_⟩
  dsimp only at hrun
  split at hrun
  · cases hrun
  next hopens =>
    split at hrun
    · cases hrun
    next hfits =>
      refine ⟨by simpa using hopens, not_not.mp hfits, ?_⟩
      obtain ⟨⟨ending, simulation⟩, hloop, hrest⟩ := bind_eq_ok.mp hrun
      refine ⟨ending, simulation, hloop, ?_⟩
      cases ending with
      | again =>
        obtain rfl := Except.ok.inj hrest
        exact Or.inl ⟨rfl, rfl⟩
      | left stopped =>
        obtain ⟨timed, hflush, hreturn⟩ := bind_eq_ok.mp hrest
        obtain rfl := Except.ok.inj hreturn
        exact Or.inr ⟨stopped, timed, rfl, hflush, rfl⟩

/-- **A timed run is a run** of the untimed simulator, in the environment that recalls what the
clock has decided. -/
theorem runTimed_refines (h : runTimed machine config period (some stop) passes = .ok outcome) :
    runSimulator (outcome.timed.environment machine) config (some stop) passes =
      .ok outcome.untimed := by
  obtain ⟨hvalid, hopens, _, ending, simulation, hloop, hends⟩ := runTimed_looped h
  have hrefines := TimedSimulation.loop_refines hloop
  have hkept := kept_before machine config
  have huntimed (environment : Environment) (hcalls : environment.calls = machine.calls)
      (hopen : environment.opens = machine.opens)
      (hstep : (TimedSimulation.before machine config).untimed.loop environment config stop passes =
        .ok (ending, simulation.untimed)) :
      runSimulator environment config (some stop) passes =
        (match ending with
          | .again => .ok (.running simulation.untimed.session)
          | .left stopped => simulation.untimed.flush environment config stop stopped >>=
              fun session => .ok (.returned session)) := by
    rw [runSimulator, hcalls, hvalid]
    show (if (!environment.opens) = true then _ else _) = _
    rw [hopen, hopens, Bool.not_true, if_neg Bool.false_ne_true]
    refine (congrArg (· >>= _) hstep).trans ?_
    cases ending with
    | again => rfl
    | left stopped => rfl
  rcases hends with ⟨rfl, rfl⟩ | ⟨stopped, timed, rfl, hflush, rfl⟩
  · refine huntimed _ rfl rfl ?_
    exact hrefines.untimed hkept _ (recalls_environment machine simulation.timed)
  · have hflushes := TimedSimulation.flush_refines hflush
    have hrecalls := recalls_environment machine timed
    refine (huntimed _ rfl rfl
      (hrefines.untimed hkept _ (hrecalls.of_follows hflushes.toFollows))).trans ?_
    exact congrArg (· >>= _) (hflushes.untimed (hrefines.kept hkept) _ hrecalls)

end Run

/-! ## No timed run throws where every datagram is sent -/

/-- It fails, if at all, by a count that does not fit. -/
def Quiet {α : Type} (result : Except Failure α) : Prop :=
  result = .error .overflow ∨ ∃ value, result = .ok value

section Quiet

variable {α β : Type} {result : Except Failure α} {next : α → Except Failure β}

@[simp] theorem quiet_ok (value : α) : Quiet (.ok value) := .inr ⟨value, rfl⟩

@[simp] theorem quiet_overflow : Quiet (.error .overflow : Except Failure α) := .inl rfl

/-- What follows a quiet step is quiet if it is so from each of its results. -/
theorem Quiet.bind (h : Quiet result) (h' : ∀ value, result = .ok value → Quiet (next value)) :
    Quiet (result >>= next) := by
  rcases h with rfl | ⟨value, rfl⟩
  · exact quiet_overflow
  · exact h' value rfl

/-- A quiet result that does not overflow is there. -/
theorem Quiet.exists_ok (h : Quiet result) (fits : result ≠ .error .overflow) :
    ∃ value, result = .ok value :=
  h.resolve_left fits

end Quiet

section Total

open TimedSession

variable {machine : Machine} {config : SimulatorConfig} {stop : StopPredicate}
  {timed : TimedSession} {simulation : TimedSimulation}

/-- Every datagram that fits is sent, whole. -/
def Machine.Delivers (machine : Machine) (config : SimulatorConfig) : Prop :=
  ∀ bytes, bytes.length ≤ kMaxUdpPayloadSize →
    sendTo machine.calls bytes config.destination = .ok ()

/-- The packet that is held, if any, fits a datagram. -/
def HeldFits (injector : FaultInjector) : Prop :=
  ∀ packet ∈ injector.heldPacket, packet.bytes.length ≤ kMaxUdpPayloadSize

/-- No fault makes a packet longer. -/
theorem process_fits {injector : FaultInjector} (held : HeldFits injector)
    (sequenceNumber : BitVec 64) {bytes : Bytes} (fits : bytes.length ≤ kMaxUdpPayloadSize) :
    (∀ packet ∈ (injector.process sequenceNumber bytes).1.packets,
      packet.bytes.length ≤ kMaxUdpPayloadSize) ∧
      HeldFits (injector.process sequenceNumber bytes).2 := by
  have hpending : (FaultInjector.pendingPacket injector.config sequenceNumber
      bytes).bytes.length ≤ kMaxUdpPayloadSize := by rwa [length_pendingPacket]
  unfold FaultInjector.process
  split
  · exact ⟨by simp, held⟩
  · dsimp only
    split
    next waiting hwaiting =>
      refine ⟨fun packet hmem => ?_, by simp [HeldFits]⟩
      rcases List.mem_pair.mp hmem with rfl | rfl
      · exact hpending
      · exact held packet hwaiting
    next hfree =>
      split
      · exact ⟨by simp, by simpa [HeldFits] using hpending⟩
      · exact ⟨by simpa using hpending, held⟩

/-- What is held when the loop is left fits too. -/
theorem finish_fits {injector : FaultInjector} (held : HeldFits injector) :
    ∀ packet ∈ injector.finish.1.packets, packet.bytes.length ≤ kMaxUdpPayloadSize := by
  unfold FaultInjector.finish
  split
  next waiting hwaiting =>
    intro packet hmem
    rw [List.mem_singleton.mp hmem]
    exact held waiting hwaiting
  next => simp

/-- A wait never throws, and it ends. -/
theorem waitUntilOrStop_quiet (machine : Machine) (stop : StopPredicate) (deadline : Int)
    (timed : TimedSession) : Quiet (timed.waitUntilOrStop machine stop deadline) := by
  have hloop (rounds : Nat) (timed : TimedSession) :
      Quiet (timed.waitLoop machine stop deadline rounds) := by
    fun_induction waitLoop machine stop deadline rounds timed with
    | case1 | case3 => exact quiet_ok _
    | case2 | case4 => exact quiet_overflow
    | case5 rounds timed asked goes reading fits ahead wakeup fits' clamped ih => exact ih
  exact hloop 0 _

/-- Neither does an injected delay. -/
theorem injectDelay_quiet (machine : Machine) (stop : StopPredicate) (packet : PendingPacket)
    (timed : TimedSession) : Quiet (timed.injectDelay machine stop packet) := by
  unfold injectDelay
  split
  · dsimp only
    split
    · exact quiet_overflow
    · exact waitUntilOrStop_quiet machine stop _ _
  · exact quiet_ok _

/-- A datagram that fits is delivered, whatever the clock reads. -/
theorem sendCopy_quiet (delivers : machine.Delivers config) {packet : PendingPacket}
    (fits : packet.bytes.length ≤ kMaxUdpPayloadSize) (duplicateCopy : Bool)
    (timed : TimedSession) : Quiet (timed.sendCopy machine config packet duplicateCopy) := by
  rw [sendCopy, delivers packet.bytes fits]
  exact quiet_ok _

/-- Both copies of a packet that fits are delivered. -/
theorem sendPacket_quiet (delivers : machine.Delivers config) {packet : PendingPacket}
    (fits : packet.bytes.length ≤ kMaxUdpPayloadSize) (timed : TimedSession) :
    Quiet (timed.sendPacket machine config packet) := by
  refine (sendCopy_quiet delivers fits false timed).bind fun once _ => ?_
  split
  · exact sendCopy_quiet delivers fits true once
  · exact quiet_ok once

/-- The loop of a batch does not throw where each of its packets fits a datagram. -/
theorem sendPackets_quiet (delivers : machine.Delivers config) (stop : StopPredicate)
    {packets : List PendingPacket}
    (fits : ∀ packet ∈ packets, packet.bytes.length ≤ kMaxUdpPayloadSize) (timed : TimedSession) :
    Quiet (timed.sendPackets machine config stop packets) := by
  induction packets generalizing timed with
  | nil => exact quiet_ok _
  | cons packet packets ih =>
    rw [sendPackets]
    split
    · exact quiet_ok _
    · refine (injectDelay_quiet machine stop packet _).bind fun delayed _ => ?_
      split
      · exact quiet_ok _
      · refine (sendPacket_quiet delivers (fits packet List.mem_cons_self) _).bind fun gone _ => ?_
        exact ih (fun packet hmem => fits packet (List.mem_cons_of_mem _ hmem)) gone

/-- A batch of packets that fit throws nothing. -/
theorem sendBatch_quiet (delivers : machine.Delivers config) (stop : StopPredicate)
    {batch : InjectionBatch}
    (fits : ∀ packet ∈ batch.packets, packet.bytes.length ≤ kMaxUdpPayloadSize)
    (timed : TimedSession) : Quiet (timed.sendBatch machine config stop batch) := by
  refine (sendPackets_quiet delivers stop fits timed).bind fun result _ => ?_
  obtain ⟨complete, sent⟩ := result
  cases complete with
  | true => exact quiet_ok _
  | false => exact quiet_ok _

/-- Nothing throws in generating a packet of an accepted configuration, and the packet fits a
datagram. -/
theorem generate_quiet (accepted : Accepted machine.calls config) (timed : TimedSession) :
    Quiet (timed.generate machine config) ∧ ∀ packet after,
      timed.generate machine config = .ok (packet, after) →
        packet.length ≤ kMaxUdpPayloadSize := by
  constructor
  · unfold generate
    dsimp only
    split
    · exact quiet_overflow
    · rw [encodeSample_eq accepted]
      exact quiet_ok _
  · intro packet after h
    obtain ⟨hencoded, _⟩ := generate_eq_ok h
    rw [encodeSample_eq accepted] at hencoded
    rw [← Except.ok.inj hencoded]
    exact length_sampleBytes accepted _ _

/-- A pass does not throw, and what it leaves held fits a datagram. -/
theorem pass_quiet (accepted : Accepted machine.calls config)
    (delivers : machine.Delivers config) (period : BitVec 64) (stop : StopPredicate)
    (held : HeldFits simulation.injector) :
    Quiet (simulation.pass machine config period stop) ∧ ∀ ending next,
      simulation.pass machine config period stop = .ok (ending, next) → HeldFits next.injector := by
  obtain ⟨hquiet, hbytes⟩ := generate_quiet accepted simulation.timed
  constructor
  · refine hquiet.bind fun generated hgenerated => ?_
    obtain ⟨packet, after⟩ := generated
    have hfits := process_fits held (simulation.timed.session.summary.packetsGenerated + 1)
      (hbytes packet after hgenerated)
    dsimp only
    generalize simulation.injector.process
      (simulation.timed.session.summary.packetsGenerated + 1) packet = processed at hfits ⊢
    refine (sendBatch_quiet delivers stop hfits.1 _).bind fun sent _ => ?_
    split
    · exact quiet_ok _
    · split
      · exact quiet_ok _
      · split
        · exact quiet_overflow
        · exact (waitUntilOrStop_quiet machine stop _ _).bind fun waited _ => quiet_ok _
  · intro ending next h
    obtain ⟨⟨packet, after⟩, hgenerated, hrest⟩ := bind_eq_ok.mp h
    have hfits := process_fits held (simulation.timed.session.summary.packetsGenerated + 1)
      (hbytes packet after hgenerated)
    dsimp only at hrest
    generalize simulation.injector.process
      (simulation.timed.session.summary.packetsGenerated + 1) packet = processed at hfits hrest
    obtain ⟨⟨complete, sent⟩, _, hend⟩ := bind_eq_ok.mp hrest
    split at hend
    · obtain ⟨_, rfl⟩ := Prod.mk.inj (Except.ok.inj hend)
      exact hfits.2
    · split at hend
      · obtain ⟨_, rfl⟩ := Prod.mk.inj (Except.ok.inj hend)
        exact hfits.2
      · split at hend
        · cases hend
        · obtain ⟨_, _, hdone⟩ := bind_eq_ok.mp hend
          obtain ⟨_, rfl⟩ := Prod.mk.inj (Except.ok.inj hdone)
          exact hfits.2

/-- Neither does the loop, for any number of passes. -/
theorem loop_quiet (accepted : Accepted machine.calls config)
    (delivers : machine.Delivers config) (period : BitVec 64) (stop : StopPredicate) (passes : Nat)
    (held : HeldFits simulation.injector) :
    Quiet (simulation.loop machine config period stop passes) ∧ ∀ ending next,
      simulation.loop machine config period stop passes = .ok (ending, next) →
        HeldFits next.injector := by
  induction passes generalizing simulation with
  | zero =>
    refine ⟨quiet_ok _, fun ending next h => ?_⟩
    obtain ⟨_, rfl⟩ := Prod.mk.inj (Except.ok.inj h)
    exact held
  | succ passes ih =>
    rw [TimedSimulation.loop]
    dsimp only
    split
    · refine ⟨quiet_ok _, fun ending next h => ?_⟩
      obtain ⟨_, rfl⟩ := Prod.mk.inj (Except.ok.inj h)
      exact held
    · have hasked : HeldFits ({ simulation with
          timed := (simulation.timed.stopRequested stop).2 } : TimedSimulation).injector := held
      obtain ⟨hquiet, hnext⟩ := pass_quiet accepted delivers period stop hasked
      constructor
      · refine hquiet.bind fun passed hpassed => ?_
        obtain ⟨ending, next⟩ := passed
        cases ending with
        | again => exact (ih (hnext _ next hpassed)).1
        | left stopped => exact quiet_ok _
      · intro ending next h
        obtain ⟨⟨between, middle⟩, hpassed, hrest⟩ := bind_eq_ok.mp h
        cases between with
        | again => exact (ih (hnext _ middle hpassed)).2 ending next hrest
        | left stopped =>
          obtain ⟨_, rfl⟩ := Prod.mk.inj (Except.ok.inj hrest)
          exact hnext _ middle hpassed

/-- Nor does what comes after the loop. -/
theorem flush_quiet (delivers : machine.Delivers config) (stop : StopPredicate) (stopped : Bool)
    (held : HeldFits simulation.injector) :
    Quiet (simulation.flush machine config stop stopped) := by
  unfold TimedSimulation.flush
  split
  · exact quiet_ok _
  · dsimp only
    split
    · exact quiet_ok _
    · exact (sendBatch_quiet delivers stop (finish_fits held) _).bind fun sent _ => quiet_ok _

/-- **No timed run throws** where every datagram is sent, and each of its waits ends: a run that
does not come to an outcome has met a count that does not fit. -/
theorem runTimed_quiet (accepted : Accepted machine.calls config) (opens : machine.opens = true)
    (delivers : machine.Delivers config) (period : BitVec 64) (stop : StopPredicate)
    (passes : Nat) : Quiet (runTimed machine config period (some stop) passes) := by
  have hfree : HeldFits (TimedSimulation.before machine config).injector := by
    intro packet hmem
    cases hmem
  have hloop := loop_quiet accepted delivers period stop passes hfree
  have hvalid : Quiet (raised (validateRuntimeConfig machine.calls config)) :=
    .inr ⟨(), raised_eq_ok.mpr (validateRuntimeConfig_iff.mpr accepted)⟩
  refine hvalid.bind fun _ _ => ?_
  dsimp only
  rw [opens, Bool.not_true, if_neg Bool.false_ne_true]
  split
  · exact quiet_overflow
  · refine hloop.1.bind fun looped hlooped => ?_
    obtain ⟨ending, simulation⟩ := looped
    cases ending with
    | again => exact quiet_ok _
    | left stopped =>
      refine (flush_quiet delivers stop stopped (hloop.2 _ simulation hlooped)).bind
        fun timed _ => ?_
      exact quiet_ok _

/-- **A timed run returns** where the untimed one does: by its count, or once a stop request is
made, unless a count of its clock does not fit. -/
theorem runTimed_returns (accepted : Accepted machine.calls config) (opens : machine.opens = true)
    (delivers : machine.Delivers config) {period : BitVec 64} (steady : Session.Steady stop)
    {passes : Nat}
    (ends : (∃ count, config.packetCount = some count ∧ count.toNat ≤ passes) ∨
      ∃ call, stop call = true ∧ call < passes)
    (fits : runTimed machine config period (some stop) passes ≠ .error .overflow) :
    ∃ timed, runTimed machine config period (some stop) passes = .ok (.returned timed) := by
  obtain ⟨outcome, hrun⟩ :=
    (runTimed_quiet accepted opens delivers period stop passes).exists_ok fits
  have huntimed := runTimed_refines hrun
  have haccepted : Accepted (outcome.timed.environment machine).calls config := accepted
  have hdelivers : Session.Delivers (outcome.timed.environment machine) config := delivers
  obtain ⟨session, hreturns⟩ := runSimulator_returns haccepted opens hdelivers steady ends
  rw [huntimed] at hreturns
  cases outcome with
  | running timed => cases hreturns
  | returned timed => exact ⟨timed, hrun⟩

end Total

end Driveflow.Simulator

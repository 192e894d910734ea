import Driveflow.Laws.Simulator.SendPeriod
import Driveflow.Laws.Simulator.Timing

/-!
# The schedule of the simulator

The deadline of the loop moves on by one period from its own last value and not from the clock, so
the schedule does not drift: the packet of pass `m + 1` belongs to the slot that begins `m` periods
after the start. No datagram leaves before its slot and its injected delay (`OnSchedule`), whatever
the machine does, and none leaves later than that by more than what the machine and the injected
delays have taken in all (`spent`). A packet held for a swap leaves in the slot of its successor.

A wait sleeps in rounds of ten milliseconds at most, and each round asks the stop predicate.
-/

namespace Driveflow.Simulator

open Library Net Protocol

/-- How many nanoseconds go by on so many occasions. -/
def Machine.elapsed (machine : Machine) (occasions : Nat) : Nat :=
  ∑ occasion ∈ Finset.range occasions, machine.elapse occasion

namespace TimedSession

/-- What a run has lost so far: to the machine, and to the injected delays. -/
def spent (machine : Machine) (timed : TimedSession) : Int :=
  machine.elapsed timed.occasions + timed.delays

/-- Every datagram sent has its time, and no sleep was longer than the interval of the stop
predicate. -/
structure Dated (timed : TimedSession) : Prop where
  departures : timed.departures.map (·.datagram) = timed.session.sent
  sleeps : ∀ slept ∈ timed.sleeps, slept ≤ kStopPollInterval
  slept : timed.slept ≤ kStopPollInterval

/-- Time goes by for the reasons that count as spent, and for no other. -/
structure Prompt (machine : Machine) (before after : TimedSession) : Prop where
  later : before.now ≤ after.now
  prompt : after.now + before.spent machine ≤ before.now + after.spent machine
  dated : before.Dated → after.Dated

variable {machine : Machine} {config : SimulatorConfig} {stop : StopPredicate}
  {timed before between after : TimedSession}

/-- Prompt steps after each other are prompt. -/
theorem Prompt.trans (h : Prompt machine before between) (h' : Prompt machine between after) :
    Prompt machine before after where
  later := h.later.trans h'.later
  prompt := by
    have hfirst := h.prompt
    have hnext := h'.prompt
    omega
  dated := h'.dated ∘ h.dated

/-- What is spent is not given back. -/
theorem Prompt.spent_le (h : Prompt machine before after) :
    before.spent machine ≤ after.spent machine := by
  have hlater := h.later
  have hprompt := h.prompt
  omega

/-- Counting takes no time. -/
theorem prompt_summary (machine : Machine) (timed : TimedSession) (summary : SimulationSummary) :
    Prompt machine timed { timed with session := { timed.session with summary } } where
  later := le_refl _
  prompt := le_refl _
  dated h := ⟨h.departures, h.sleeps, h.slept⟩

/-- Asking takes no time. -/
theorem prompt_stopRequested (machine : Machine) (stop : StopPredicate) (timed : TimedSession) :
    Prompt machine timed (timed.stopRequested stop).2 where
  later := le_refl _
  prompt := le_refl _
  dated h := by
    refine ⟨h.departures, fun slept hmem => ?_, (by decide : (0 : Int) ≤ kStopPollInterval)⟩
    rcases List.mem_append.mp hmem with hold | hnew
    · exact h.sleeps slept hold
    · rw [List.mem_singleton.mp hnew]
      exact h.slept

/-- What goes by at an occasion is spent. -/
theorem spent_elapse (machine : Machine) (timed : TimedSession) :
    (timed.elapse machine).spent machine =
      timed.spent machine + machine.elapse timed.occasions := by
  unfold spent Machine.elapsed elapse
  dsimp only
  rw [Finset.sum_range_succ]
  push_cast
  ring

/-- Time that goes by at an occasion counts as spent. -/
theorem prompt_elapse (machine : Machine) (timed : TimedSession) :
    Prompt machine timed (timed.elapse machine) where
  later := Int.le_add_of_nonneg_right (Int.natCast_nonneg _)
  prompt := by
    rw [spent_elapse]
    show timed.now + _ + _ ≤ _
    omega
  dated h := ⟨h.departures, h.sleeps, h.slept⟩

/-! ## Waiting -/

/-- What a wait for a deadline does to a session. -/
structure Waited (machine : Machine) (deadline : Int) (before after : TimedSession)
    (stopped : Bool) : Prop where
  later : before.now ≤ after.now
  /-- Beyond its deadline it takes what the machine takes. -/
  prompt : after.now + before.spent machine ≤ max deadline before.now + after.spent machine
  spent : before.spent machine ≤ after.spent machine
  dated : before.Dated → after.Dated
  departures : after.departures = before.departures
  ended : stopped = false → deadline ≤ after.now

/-- **The loop of a wait** ends at its deadline or later, unless it is stopped. -/
theorem waitLoop_waited {deadline : Int} {rounds : Nat} {stopped : Bool}
    (h : timed.waitLoop machine stop deadline rounds = .ok (stopped, after)) :
    Waited machine deadline timed after stopped := by
  fun_induction waitLoop machine stop deadline rounds timed with
  | case1 rounds timed asked asks =>
    obtain ⟨rfl, rfl⟩ := Prod.mk.inj (Except.ok.inj h)
    have hasked := prompt_stopRequested machine stop timed
    refine ⟨hasked.later, ?_, hasked.spent_le, fun h => ?_, rfl, fun h => by cases h⟩
    · show timed.now + timed.spent machine ≤ max deadline timed.now + timed.spent machine
      omega
    · obtain ⟨hdepartures, hsleeps, hslept⟩ := hasked.dated h
      exact ⟨hdepartures, hsleeps, hslept⟩
  | case2 | case4 => cases h
  | case3 rounds timed asked goes reading fits reached =>
    obtain ⟨rfl, rfl⟩ := Prod.mk.inj (Except.ok.inj h)
    have hread : Prompt machine timed reading :=
      (prompt_stopRequested machine stop timed).trans (prompt_elapse machine asked.2)
    refine ⟨hread.later, ?_, hread.spent_le, fun h => ?_, rfl, fun _ => reached⟩
    · have hprompt := hread.prompt
      show reading.now + timed.spent machine ≤ max deadline timed.now + reading.spent machine
      omega
    · obtain ⟨hdepartures, hsleeps, hslept⟩ := hread.dated h
      exact ⟨hdepartures, hsleeps, hslept⟩
  | case5 rounds timed asked goes reading fits ahead wakeup fits' clamped ih =>
    have hread : Prompt machine timed reading :=
      (prompt_stopRequested machine stop timed).trans (prompt_elapse machine asked.2)
    have hahead : reading.now < deadline := not_le.mp ahead
    have hclamped : reading.now < clamped ∧ clamped ≤ deadline ∧
        clamped ≤ reading.now + kStopPollInterval := wakeup_bounds hahead
    have hnow : (reading.sleepUntil clamped).now = clamped :=
      max_eq_right (Int.le_of_lt hclamped.1)
    have hspent : (reading.sleepUntil clamped).spent machine = reading.spent machine := rfl
    have hmiddle := hread.spent_le
    obtain ⟨hlater, hprompt, hmore, hdated, hdepartures, hended⟩ := ih h
    rw [hnow] at hlater hprompt
    rw [hspent] at hprompt hmore
    have hreading := hread.later
    refine ⟨by omega, by omega, hmiddle.trans hmore, fun h => hdated ?_, hdepartures, hended⟩
    obtain ⟨hsame, hsleeps, _⟩ := hread.dated h
    refine ⟨hsame, hsleeps, ?_⟩
    -- the run was asked before it slept
    show 0 + (max reading.now clamped - reading.now) ≤ kStopPollInterval
    rw [max_eq_right (Int.le_of_lt hclamped.1)]
    omega

/-- So does a whole wait. -/
theorem waitUntilOrStop_waited {deadline : Int} {stopped : Bool}
    (h : timed.waitUntilOrStop machine stop deadline = .ok (stopped, after)) :
    Waited machine deadline timed after stopped := by
  obtain ⟨later, prompt, spent, dated, departures, ended⟩ := waitLoop_waited h
  exact ⟨later, prompt, spent, fun h => dated ⟨h.departures, h.sleeps, h.slept⟩, departures, ended⟩

/-- An injected delay lasts at least as long as it should, and what it lasts is spent. -/
theorem injectDelay_prompt {packet : PendingPacket} {stopped : Bool}
    (h : timed.injectDelay machine stop packet = .ok (stopped, after)) :
    Prompt machine timed after ∧ after.departures = timed.departures ∧
      (stopped = false → timed.now + nanosecondsOf packet.delay ≤ after.now) := by
  unfold injectDelay at h
  split at h
  next hdelay =>
    have hpositive : 0 < nanosecondsOf packet.delay := by
      unfold nanosecondsOf
      omega
    have hread : (timed.beginDelay machine packet).now =
        timed.now + machine.elapse timed.occasions := rfl
    have hspent : (timed.beginDelay machine packet).spent machine =
        timed.spent machine + machine.elapse timed.occasions + nanosecondsOf packet.delay := by
      rw [beginDelay, spent_elapse]
      unfold spent
      dsimp only
      ring
    have hbegun (h : timed.Dated) : (timed.beginDelay machine packet).Dated :=
      ⟨h.departures, h.sleeps, h.slept⟩
    have hsame : (timed.beginDelay machine packet).departures = timed.departures := rfl
    dsimp only at h
    split at h
    · cases h
    · obtain ⟨hlater, hprompt, hmore, hdated, hdepartures, hended⟩ := waitUntilOrStop_waited h
      generalize timed.beginDelay machine packet = reading at *
      have helapse := Int.natCast_nonneg (machine.elapse timed.occasions)
      refine ⟨⟨by omega, by omega, hdated ∘ hbegun⟩, hdepartures.trans hsame, fun hgoes => ?_⟩
      have hreached := hended hgoes
      omega
  next hnone =>
    obtain ⟨rfl, rfl⟩ := Prod.mk.inj (Except.ok.inj h)
    refine ⟨⟨le_refl _, le_refl _, id⟩, rfl, fun _ => ?_⟩
    unfold nanosecondsOf
    omega

/-! ## Sending -/

/-- The copies of one packet leave. -/
structure Leaves (machine : Machine) (packet : PendingPacket) (before after : TimedSession) : Prop
    extends Prompt machine before after where
  departures : ∃ later, after.departures = before.departures ++ later ∧
    ∀ departure ∈ later, departure.datagram.packet = packet ∧
      before.now ≤ departure.time ∧ departure.time ≤ after.now

/-- Of these packets some leave, each after its injected delay. -/
structure Departs (machine : Machine) (packets : List PendingPacket) (before after : TimedSession) :
    Prop extends Prompt machine before after where
  departures : ∃ later, after.departures = before.departures ++ later ∧
    ∀ departure ∈ later, departure.datagram.packet ∈ packets ∧
      before.now + nanosecondsOf departure.datagram.packet.delay ≤ departure.time ∧
      departure.time ≤ after.now

/-- A copy leaves between the readings before and after its call. -/
theorem sendCopy_leaves {packet : PendingPacket} {duplicateCopy : Bool}
    (h : timed.sendCopy machine config packet duplicateCopy = .ok after) :
    Leaves machine packet timed after := by
  obtain ⟨_, _, heq⟩ := bind_eq_ok.mp h
  obtain rfl := Except.ok.inj heq
  obtain ⟨hlater, hprompt, hdated⟩ := prompt_elapse machine timed
  refine ⟨⟨hlater, hprompt, fun hbefore => ?_⟩, _, rfl, fun departure hmem => ?_⟩
  · obtain ⟨hdepartures, hsleeps, hslept⟩ := hdated hbefore
    refine ⟨?_, hsleeps, hslept⟩
    show List.map _ (_ ++ [_]) = _ ++ [_]
    rw [List.map_append, hdepartures]
    rfl
  · rw [List.mem_singleton.mp hmem]
    exact ⟨rfl, hlater, le_refl _⟩

/-- So do the two copies of a duplicated packet. -/
theorem sendPacket_leaves {packet : PendingPacket}
    (h : timed.sendPacket machine config packet = .ok after) :
    Leaves machine packet timed after := by
  obtain ⟨once, hfirst, hsecond⟩ := bind_eq_ok.mp h
  have hcopy := sendCopy_leaves hfirst
  split at hsecond
  · have hagain := sendCopy_leaves hsecond
    obtain ⟨sent, hsent, htimes⟩ := hcopy.departures
    obtain ⟨resent, hresent, htimes'⟩ := hagain.departures
    refine ⟨hcopy.toPrompt.trans hagain.toPrompt, sent ++ resent, ?_, fun departure hmem => ?_⟩
    · rw [hresent, hsent, List.append_assoc]
    · rcases List.mem_append.mp hmem with hmem | hmem
      · obtain ⟨hpacket, hfrom, hto⟩ := htimes departure hmem
        exact ⟨hpacket, hfrom, hto.trans hagain.later⟩
      · obtain ⟨hpacket, hfrom, hto⟩ := htimes' departure hmem
        exact ⟨hpacket, hcopy.later.trans hfrom, hto⟩
  · obtain rfl := Except.ok.inj hsecond
    exact hcopy

/-- Nothing leaves. -/
theorem Prompt.departs {packets : List PendingPacket} (h : Prompt machine before after)
    (same : after.departures = before.departures) : Departs machine packets before after :=
  ⟨h, [], by rw [List.append_nil, same], nofun⟩

/-- A packet leaves after its delay. -/
theorem Leaves.departs {packet : PendingPacket} {packets : List PendingPacket}
    (leaves : Leaves machine packet between after) (delay : Prompt machine before between)
    (same : between.departures = before.departures)
    (waited : before.now + nanosecondsOf packet.delay ≤ between.now) :
    Departs machine (packet :: packets) before after := by
  obtain ⟨later, hlater, htimes⟩ := leaves.departures
  refine ⟨delay.trans leaves.toPrompt, later, by rw [hlater, same], fun departure hmem => ?_⟩
  obtain ⟨hpacket, hfrom, hto⟩ := htimes departure hmem
  rw [hpacket]
  exact ⟨List.mem_cons_self, waited.trans hfrom, hto⟩

/-- What departs in two steps departs in the two after each other. -/
theorem Departs.trans {packets : List PendingPacket} (h : Departs machine packets before between)
    (h' : Departs machine packets between after) : Departs machine packets before after := by
  obtain ⟨first, hfirst, htimes⟩ := h.departures
  obtain ⟨next, hnext, htimes'⟩ := h'.departures
  refine ⟨h.toPrompt.trans h'.toPrompt, first ++ next, ?_, fun departure hmem => ?_⟩
  · rw [hnext, hfirst, List.append_assoc]
  · rcases List.mem_append.mp hmem with hmem | hmem
    · obtain ⟨hpacket, hfrom, hto⟩ := htimes departure hmem
      exact ⟨hpacket, hfrom, hto.trans h'.later⟩
    · obtain ⟨hpacket, hfrom, hto⟩ := htimes' departure hmem
      have hlater := h.later
      exact ⟨hpacket, by omega, hto⟩

/-- What departs of a list departs of any list that holds it. -/
theorem Departs.mono {packets more : List PendingPacket} (h : Departs machine packets before after)
    (hsubset : packets ⊆ more) : Departs machine more before after := by
  obtain ⟨later, hlater, htimes⟩ := h.departures
  exact ⟨h.toPrompt, later, hlater, fun departure hmem =>
    ⟨hsubset (htimes departure hmem).1, (htimes departure hmem).2⟩⟩

/-- **What leaves with a batch**, whether or not it is stopped. -/
theorem sendPackets_departs {packets : List PendingPacket} {complete : Bool}
    (h : timed.sendPackets machine config stop packets = .ok (complete, after)) :
    Departs machine packets timed after := by
  induction packets generalizing timed with
  | nil =>
    obtain ⟨_, rfl⟩ := Prod.mk.inj (Except.ok.inj h)
    exact Prompt.departs ⟨le_refl _, le_refl _, id⟩ rfl
  | cons packet packets ih =>
    have hasked := prompt_stopRequested machine stop timed
    rw [sendPackets] at h
    split at h
    · obtain ⟨_, rfl⟩ := Prod.mk.inj (Except.ok.inj h)
      exact hasked.departs rfl
    · obtain ⟨⟨stopped, delayed⟩, hdelays, hsends⟩ := bind_eq_ok.mp h
      obtain ⟨hprompt, hsame, hwaited⟩ := injectDelay_prompt hdelays
      split at hsends
      · obtain ⟨_, rfl⟩ := Prod.mk.inj (Except.ok.inj hsends)
        exact (hasked.trans hprompt).departs hsame
      next hgoes =>
        obtain ⟨gone, hgone, hrest⟩ := bind_eq_ok.mp hsends
        have hgoes' := hwaited (eq_false_of_ne_true hgoes)
        have hleaves : Departs machine (packet :: packets) timed gone :=
          (sendPacket_leaves hgone).departs (hasked.trans hprompt) hsame hgoes'
        exact hleaves.trans ((ih hrest).mono (List.subset_cons_self _ _))

/-- Of a batch its packets depart. -/
theorem sendBatch_departs {batch : InjectionBatch} {complete : Bool}
    (h : timed.sendBatch machine config stop batch = .ok (complete, after)) :
    Departs machine batch.packets timed after := by
  obtain ⟨⟨whole, sent⟩, hsend, hrest⟩ := bind_eq_ok.mp h
  have hdeparts := sendPackets_departs hsend
  cases whole with
  | true =>
    obtain ⟨_, rfl⟩ := Prod.mk.inj (Except.ok.inj hrest)
    exact hdeparts.trans ((prompt_summary machine sent _).departs rfl)
  | false =>
    obtain ⟨_, rfl⟩ := Prod.mk.inj (Except.ok.inj hrest)
    exact hdeparts

/-- Generating takes what is spent on it, and nothing leaves meanwhile. -/
theorem generate_prompt {packet : Bytes}
    (h : timed.generate machine config = .ok (packet, after)) :
    Prompt machine timed after ∧ after.departures = timed.departures := by
  obtain ⟨_, rfl⟩ := generate_eq_ok h
  obtain ⟨hlater, hprompt, hdated⟩ := prompt_elapse machine timed
  refine ⟨⟨hlater, hprompt, fun hbefore => ?_⟩, rfl⟩
  obtain ⟨hdepartures, hsleeps, hslept⟩ := hdated hbefore
  exact ⟨hdepartures, hsleeps, hslept⟩

end TimedSession

/-! ## Slots -/

/-- The packet of this number is due in this slot: its own, or that of the next packet that is sent,
if it is held for a swap. -/
structure Due (faults : FaultInjectionConfig) (slot k : Nat) : Prop where
  positive : 1 ≤ k
  reached : k ≤ slot + 1
  own : k = slot + 1 ∨ matchesInterval faults.reorderEvery (number k) = true
  between : ∀ j, k < j → j ≤ slot → dropped faults j = true

/-- What is held was selected for a swap, and everything since was dropped. -/
theorem due_of_held {faults : FaultInjectionConfig} {m k : Nat}
    (held : (plan faults m).held = some k) :
    k ≤ m ∧ Due faults m k ∧ matchesInterval faults.reorderEvery (number k) = true := by
  induction m with
  | zero => cases held
  | succ m ih =>
    obtain ⟨released, completed, step⟩ := plan_step faults m
    cases step with
    | dropped hdropped hplan =>
      rw [hplan] at held
      obtain ⟨hle, hdue, hselected⟩ := ih held
      refine ⟨Nat.le_succ_of_le hle,
        ⟨hdue.positive, by omega, Or.inr hselected, fun j hj hslot => ?_⟩, hselected⟩
      rcases Nat.le_succ_iff.mp hslot with hearlier | rfl
      · exact hdue.between j hj hearlier
      · exact hdropped
    | sent _ _ _ hplan | swapped _ _ hplan =>
      rw [hplan] at held
      cases held
    | held hkept hfree hreorder hplan =>
      rw [hplan] at held
      obtain rfl := Option.some.inj held
      exact ⟨le_refl _, ⟨by omega, by omega, Or.inr hreorder, fun j hj hslot => by omega⟩, hreorder⟩

/-- What a pass releases is due in its slot. -/
theorem due_of_released {faults : FaultInjectionConfig} {m k : Nat} {released : List Nat}
    {completed : List (Nat × Nat)} (step : Step faults m released completed)
    (h : k ∈ released) : Due faults m k := by
  have hown : Due faults m (m + 1) := ⟨by omega, le_refl _, Or.inl rfl, fun j hj hslot => by omega⟩
  cases step with
  | dropped | held => cases h
  | sent =>
    rw [List.mem_singleton.mp h]
    exact hown
  | swapped _ hheld =>
    rcases List.mem_pair.mp h with rfl | rfl
    · exact hown
    · exact (due_of_held hheld).2.1

/-! ## The schedule -/

section Schedule

open TimedSession

/-- The session is in this slot, and late by no more than what is spent. -/
structure InSlot (machine : Machine) (period : Int) (slot : Nat) (timed : TimedSession) : Prop where
  notEarly : machine.start + slot * period ≤ timed.now
  notLate : timed.now ≤ machine.start + slot * period + timed.spent machine

/-- A datagram leaves in the slot that its packet is due in, after its injected delay, and late by
no more than what is spent. -/
def OnSchedule (machine : Machine) (faults : FaultInjectionConfig) (period : Int)
    (packet : Nat → PendingPacket) (spent : Int) (departure : Departure) : Prop :=
  ∃ slot k, Due faults slot k ∧ departure.datagram.packet = packet k ∧
    machine.start + slot * period + nanosecondsOf (packet k).delay ≤ departure.time ∧
    departure.time ≤ machine.start + slot * period + spent

/-- All that has left did so on schedule, and is dated. -/
structure Timely (machine : Machine) (faults : FaultInjectionConfig) (period : Int)
    (packet : Nat → PendingPacket) (timed : TimedSession) : Prop where
  scheduled : ∀ departure ∈ timed.departures,
    OnSchedule machine faults period packet (timed.spent machine) departure
  dated : timed.Dated

variable {machine : Machine} {config : SimulatorConfig} {period : Int}
  {packet : Nat → PendingPacket} {slot : Nat} {before after : TimedSession}

/-- What is on schedule stays so when more is spent. -/
theorem OnSchedule.mono {faults : FaultInjectionConfig} {departure : Departure} {spent later : Int}
    (h : OnSchedule machine faults period packet spent departure) (hle : spent ≤ later) :
    OnSchedule machine faults period packet later departure := by
  obtain ⟨slot, k, hdue, hpacket, hfrom, hto⟩ := h
  exact ⟨slot, k, hdue, hpacket, hfrom, by omega⟩

/-- A prompt step does not leave the slot. -/
theorem InSlot.prompt (h : InSlot machine period slot before)
    (hprompt : Prompt machine before after) : InSlot machine period slot after := by
  obtain ⟨hlater, hspent, _⟩ := hprompt
  obtain ⟨hearly, hlate⟩ := h
  exact ⟨by omega, by omega⟩

/-- Nothing leaves, and nothing is early or late. -/
theorem Timely.same (h : Timely machine config.faults period packet before)
    (after : TimedSession) (same : after.departures = before.departures)
    (spent : before.spent machine ≤ after.spent machine) (dated : before.Dated → after.Dated) :
    Timely machine config.faults period packet after where
  scheduled departure hmem := (h.scheduled departure (same ▸ hmem)).mono spent
  dated := dated h.dated

/-- **What leaves in a slot is on schedule** if it is due there. -/
theorem Timely.departs (h : Timely machine config.faults period packet before)
    (inSlot : InSlot machine period slot before) {numbers : List Nat}
    (due : ∀ k ∈ numbers, Due config.faults slot k)
    (departs : Departs machine (numbers.map packet) before after) :
    Timely machine config.faults period packet after ∧ InSlot machine period slot after := by
  have hafter := inSlot.prompt departs.toPrompt
  obtain ⟨later, hlater, htimes⟩ := departs.departures
  refine ⟨⟨fun departure hmem => ?_, departs.dated h.dated⟩, hafter⟩
  rw [hlater] at hmem
  rcases List.mem_append.mp hmem with hmem | hmem
  · exact (h.scheduled departure hmem).mono departs.toPrompt.spent_le
  · obtain ⟨hpacket, hfrom, hto⟩ := htimes departure hmem
    obtain ⟨k, hk, heq⟩ := List.mem_map.mp hpacket
    rw [← heq] at hfrom
    have hearly := inSlot.notEarly
    have hlate := hafter.notLate
    exact ⟨slot, k, due k hk, heq.symm, by omega, by omega⟩

/-- The rate wait of a pass opens the next slot. -/
theorem InSlot.opens {stopped : Bool} (h : InSlot machine period slot before)
    (nonneg : 0 ≤ period)
    (waited : Waited machine (machine.start + slot * period + period) before after stopped)
    (goes : stopped = false) : InSlot machine period (slot + 1) after := by
  have hreached := waited.ended goes
  have hprompt := waited.prompt
  have hspent := waited.spent
  have hlate := h.notLate
  constructor
  · push_cast
    linarith
  · push_cast
    have hmax : max (machine.start + slot * period + period) before.now ≤
        machine.start + slot * period + period + before.spent machine := by
      have hearly := h.notEarly
      omega
    linarith

end Schedule

/-! ## The passes -/

section Passes

open TimedSession

/-- Between two passes, with the deadline that the last wait was for. -/
structure OnTime (machine : Machine) (faults : FaultInjectionConfig) (period : BitVec 64)
    (packet : Nat → PendingPacket) (m : Nat) (simulation : TimedSimulation) : Prop
    extends Timely machine faults period.toInt packet simulation.timed where
  deadline : simulation.nextDeadline.toInt = machine.start + m * period.toInt
  slot : InSlot machine period.toInt m simulation.timed

variable {machine : Machine} {environment : Environment} {config : SimulatorConfig}
  {period : BitVec 64} {packet : Nat → PendingPacket} {stop : StopPredicate} {m : Nat}
  {after : TimedSession} {simulation next : TimedSimulation}

/-- A deadline that is moved on without overflow is later by one period. -/
theorem toInt_of_advance {deadline later : BitVec 64} (h : advance deadline period = some later) :
    later.toInt = deadline.toInt + period.toInt := by
  unfold advance at h
  split at h
  · cases h
  next hfits =>
    rw [← Option.some.inj h]
    exact BitVec.toInt_add_of_not_saddOverflow hfits

/-- What `process` makes of the next packet, in the run that recalls the timestamps. -/
theorem process_eq {bytes : Bytes} {session : Session} {released : List Nat}
    {completed : List (Nat × Nat)} (accepted : Accepted environment.calls config)
    (head : AtHead config (packetAt config environment.timestamps) stop m simulation.untimed)
    (generates : simulation.timed.session.generate config environment = .ok (bytes, session))
    (step : Step config.faults m released completed) :
    simulation.injector.process (simulation.timed.session.summary.packetsGenerated + 1) bytes =
      (batchOf config.faults (packetAt config environment.timestamps) m released completed,
        injectorAt config.faults (packetAt config environment.timestamps) (m + 1)) := by
  have hnumber : simulation.timed.session.summary.packetsGenerated = number m :=
    head.reached.generated
  have hread : simulation.timed.session.timestampsRead = m := head.reached.timestampsRead
  have hinjector : simulation.injector =
      injectorAt config.faults (packetAt config environment.timestamps) m := head.injector
  rw [generate_eq accepted] at generates
  obtain ⟨rfl, _⟩ := Prod.mk.inj (Except.ok.inj generates)
  rw [hnumber, hread, hinjector, ← number_succ]
  exact process_injectorAt step rfl

/-- **One pass**: what it sends leaves on schedule, and if the loop goes on the next slot is open. -/
theorem OnTime.pass {ending : Simulation.Pass} (accepted : Accepted environment.calls config)
    (nonneg : 0 ≤ period.toInt) (kept : simulation.timed.Kept)
    (recalls : Recalls environment machine next.timed)
    (head : AtHead config (packetAt config environment.timestamps) stop m simulation.untimed)
    (onTime : OnTime machine config.faults period (packetAt config environment.timestamps) m
      simulation)
    (h : simulation.pass machine config period stop = .ok (ending, next)) :
    Timely machine config.faults period.toInt (packetAt config environment.timestamps)
        next.timed ∧
      (ending = .left false → InSlot machine period.toInt m next.timed) ∧
      (ending = .again → OnTime machine config.faults period
        (packetAt config environment.timestamps) (m + 1) next) := by
  obtain ⟨released, completed, step⟩ := plan_step config.faults m
  obtain ⟨⟨bytes, generated⟩, hgenerate, hrest⟩ := bind_eq_ok.mp h
  dsimp only at hrest
  generalize hprocess : simulation.injector.process
    (simulation.timed.session.summary.packetsGenerated + 1) bytes = processed at hrest
  obtain ⟨⟨complete, sent⟩, hbatch, hend⟩ := bind_eq_ok.mp hrest
  have hgenerates := generate_refines hgenerate
  have hsends := (refines_summary machine generated _).trans (sendBatch_refines hbatch)
  obtain ⟨hprompt, hsame⟩ := generate_prompt hgenerate
  have hcounted := hprompt.trans (prompt_summary machine generated
    (generated.countDropped processed.1).session.summary)
  -- the batch is out: all of it is due in this slot
  have hsent (hrecalls : Recalls environment machine sent) :
      Timely machine config.faults period.toInt (packetAt config environment.timestamps) sent ∧
        InSlot machine period.toInt m sent := by
    have huntimed := hgenerates.untimed kept environment
      (hrecalls.of_follows hsends.toFollows)
    rw [process_eq accepted head huntimed step] at hprocess
    subst hprocess
    refine (onTime.toTimely.same (generated.countDropped _) hsame hcounted.spent_le
      hcounted.dated).departs (onTime.slot.prompt hcounted) (fun k hk => due_of_released step hk)
      (sendBatch_departs hbatch)
  split at hend
  · obtain ⟨rfl, rfl⟩ := Prod.mk.inj (Except.ok.inj hend)
    exact ⟨(hsent recalls).1, nofun, nofun⟩
  · split at hend
    · obtain ⟨rfl, rfl⟩ := Prod.mk.inj (Except.ok.inj hend)
      exact ⟨(hsent recalls).1, fun _ => (hsent recalls).2, nofun⟩
    · split at hend
      · cases hend
      next later hadvance =>
        obtain ⟨⟨stopped, waited⟩, hwaits, hdone⟩ := bind_eq_ok.mp hend
        obtain ⟨rfl, rfl⟩ := Prod.mk.inj (Except.ok.inj hdone)
        have hwaited := waitUntilOrStop_waited hwaits
        have hlater := toInt_of_advance hadvance
        rw [onTime.deadline] at hlater
        obtain ⟨hready, hslot⟩ := hsent
          (recalls.of_follows (waitUntilOrStop_refines hwaits).toFollows)
        have hafter := hready.same _ hwaited.departures hwaited.spent hwaited.dated
        refine ⟨hafter, ?_, fun hagain => ⟨hafter, ?_, ?_⟩⟩
        · cases stopped with
          | true => exact fun hfalse => by cases hfalse
          | false => exact fun hfalse => by cases hfalse
        · show later.toInt = _
          rw [hlater]
          push_cast
          ring
        · rw [hlater] at hwaited
          refine hslot.opens nonneg hwaited ?_
          cases stopped with
          | true => cases hagain
          | false => rfl

/-- Where the loop ends without being stopped: what is held is due in the slot it ends in. -/
structure Left (machine : Machine) (faults : FaultInjectionConfig) (period : BitVec 64)
    (packet : Nat → PendingPacket) (simulation : TimedSimulation) : Prop where
  slot : ∃ m slot, simulation.injector = injectorAt faults packet m ∧ slot ≤ m ∧ m ≤ slot + 1 ∧
    InSlot machine period.toInt slot simulation.timed

/-- **The loop**: pass after pass, all that leaves is on schedule. -/
theorem OnTime.loop {passes : Nat} {ending : Simulation.Pass}
    (accepted : Accepted environment.calls config) (nonneg : 0 ≤ period.toInt)
    (kept : simulation.timed.Kept) (recalls : Recalls environment machine next.timed)
    (head : AtHead config (packetAt config environment.timestamps) stop m simulation.untimed)
    (below : Below config m)
    (onTime : OnTime machine config.faults period (packetAt config environment.timestamps) m
      simulation)
    (h : simulation.loop machine config period stop passes = .ok (ending, next)) :
    Timely machine config.faults period.toInt (packetAt config environment.timestamps)
        next.timed ∧
      (ending = .left false →
        Left machine config.faults period (packetAt config environment.timestamps) next) := by
  induction passes generalizing m simulation with
  | zero =>
    obtain ⟨rfl, rfl⟩ := Prod.mk.inj (Except.ok.inj h)
    exact ⟨onTime.toTimely, nofun⟩
  | succ passes ih =>
    have hasked : Refines machine simulation.timed (simulation.timed.stopRequested stop).2
        fun _ => True := refines_of_eq rfl rfl rfl rfl fun _ _ => trivial
    have hprompt := prompt_stopRequested machine stop simulation.timed
    have hready := onTime.toTimely.same (simulation.timed.stopRequested stop).2 rfl
      hprompt.spent_le hprompt.dated
    have hslot := onTime.slot.prompt hprompt
    rw [TimedSimulation.loop] at h
    dsimp only at h
    split at h
    · obtain ⟨rfl, rfl⟩ := Prod.mk.inj (Except.ok.inj h)
      exact ⟨hready, fun _ => ⟨m, m, head.injector, le_refl _, Nat.le_succ _, hslot⟩⟩
    next hgoes =>
      have hno : (simulation.timed.session.stopRequested stop).1 = false := by
        by_contra hyes
        refine hgoes ?_
        rw [Bool.or_eq_true]
        exact Or.inl (eq_true_of_ne_false hyes)
      have hwaits := Session.waits_stopRequested stop simulation.timed.session
      rw [hno] at hwaits
      have hhead := head.waits hwaits
      obtain ⟨⟨passed, later⟩, hpass, hrest⟩ := bind_eq_ok.mp h
      have hrefines := TimedSimulation.pass_refines hpass
      have honTime : OnTime machine config.faults period (packetAt config environment.timestamps) m
          { simulation with timed := (simulation.timed.stopRequested stop).2 } :=
        { toTimely := hready, deadline := onTime.deadline, slot := hslot }
      cases passed with
      | again =>
        have hlater : Recalls environment machine later.timed :=
          recalls.of_follows (TimedSimulation.loop_refines hrest).toFollows
        obtain ⟨_, _, hopens⟩ := honTime.pass accepted nonneg (hasked.kept kept) hlater hhead hpass
        have hpassed := hhead.pass_eq_ok accepted (Nat.lt_succ_of_le head.calls) below
          (hrefines.untimed (hasked.kept kept) environment hlater)
        cases hpassed with
        | again hnext hbelow =>
          exact ih (hrefines.kept (hasked.kept kept)) hnext hbelow (hopens rfl) hrest
      | left stopped =>
        obtain ⟨rfl, rfl⟩ := Prod.mk.inj (Except.ok.inj hrest)
        obtain ⟨htimely, hends, _⟩ :=
          honTime.pass accepted nonneg (hasked.kept kept) recalls hhead hpass
        refine ⟨htimely, fun hfalse => ?_⟩
        have hpassed := hhead.pass_eq_ok accepted (Nat.lt_succ_of_le head.calls) below
          (hrefines.untimed (hasked.kept kept) environment recalls)
        obtain rfl : stopped = false := Simulation.Pass.left.inj hfalse
        cases hpassed with
        | finished hnext _ _ =>
          exact ⟨m + 1, m, hnext.injector, Nat.le_succ _, le_refl _, hends rfl⟩

/-- **After the loop** what is held leaves on schedule too. -/
theorem Left.flush {stopped : Bool}
    (timely : Timely machine config.faults period.toInt packet simulation.timed)
    (left : stopped = false → Left machine config.faults period packet simulation)
    (h : simulation.flush machine config stop stopped = .ok after) :
    Timely machine config.faults period.toInt packet after := by
  unfold TimedSimulation.flush at h
  cases stopped with
  | true =>
    obtain rfl := Except.ok.inj h
    exact timely
  | false =>
    obtain ⟨m, slot, hinjector, hslot, hm, hin⟩ := (left rfl).slot
    have hprompt := prompt_stopRequested machine stop simulation.timed
    have hready := timely.same (simulation.timed.stopRequested stop).2 rfl
      hprompt.spent_le hprompt.dated
    rw [if_neg Bool.false_ne_true] at h
    dsimp only at h
    split at h
    · obtain rfl := Except.ok.inj h
      exact hready
    · obtain ⟨⟨complete, sent⟩, hbatch, heq⟩ := bind_eq_ok.mp h
      obtain rfl := Except.ok.inj heq
      rw [hinjector, finish_injectorAt] at hbatch
      refine (hready.departs (hin.prompt hprompt) (fun k hk => ?_) (sendBatch_departs hbatch)).1
      obtain ⟨hle, hdue, hselected⟩ := due_of_held (Option.mem_toList.mp hk)
      exact ⟨hdue.positive, by omega, Or.inr hselected, fun j hj hslot' =>
        hdue.between j hj (hslot'.trans hslot)⟩

end Passes

/-! ## The run -/

/-- What holds of a timed run: it is a run of the untimed simulator, every datagram it sent left on
schedule, and it never slept longer than the interval without asking the stop predicate. -/
structure Paced (machine : Machine) (config : SimulatorConfig) (period : BitVec 64)
    (stop : StopPredicate) (passes : Nat) (outcome : TimedOutcome) : Prop where
  refines : runSimulator (outcome.timed.environment machine) config (some stop) passes =
    .ok outcome.untimed
  departures : outcome.timed.departures.map (·.datagram) = outcome.untimed.session.sent
  scheduled : ∀ departure ∈ outcome.timed.departures,
    OnSchedule machine config.faults period.toInt
      (packetAt config (outcome.timed.environment machine).timestamps)
      (outcome.timed.spent machine) departure
  sleeps : ∀ slept ∈ outcome.timed.sleeps, slept ≤ kStopPollInterval

section Run

open TimedSession

variable {machine : Machine} {config : SimulatorConfig} {rateHz : ℚ} {period : BitVec 64}
  {stop : StopPredicate} {passes : Nat} {outcome : TimedOutcome}

/-- The exact period of an accepted rate is not negative. -/
theorem period_nonneg {calls : SocketCalls} (accepted : Accepted calls config)
    (rate : config.rateHz = some rateHz) (ticks : sendPeriod rateHz = some period) :
    0 ≤ period.toInt := by
  obtain ⟨value, hvalue, hpositive, hbounded⟩ := exists_rate_of_accepted accepted
  rw [rate] at hvalue
  obtain rfl := Option.some.inj hvalue
  rw [← (sendPeriod_eq_some_iff hpositive).mp ticks]
  exact Int.le_trans (by decide) (microsecond_le_floor hpositive hbounded)

/-- Before the loop the first slot is open. -/
theorem onTime_before (config : SimulatorConfig) (period : BitVec 64)
    (packet : Nat → PendingPacket) (fits : Fits machine.start) :
    OnTime machine config.faults period packet 0 (TimedSimulation.before machine config) where
  scheduled departure hmem := by cases hmem
  dated := ⟨rfl, fun _ hmem => absurd hmem List.not_mem_nil,
    (by decide : (0 : Int) ≤ kStopPollInterval)⟩
  deadline := by
    show (BitVec.ofInt 64 machine.start).toInt = _
    rw [BitVec.toInt_ofInt_eq_self (by decide) fits.1 fits.2, Nat.cast_zero, zero_mul, add_zero]
  slot := by
    constructor
    · show machine.start + _ ≤ machine.start
      rw [Nat.cast_zero, zero_mul, add_zero]
    · show machine.start ≤ machine.start + _ + ((machine.elapsed 1 : Nat) : Int)
      rw [Nat.cast_zero, zero_mul, add_zero]
      exact Int.le_add_of_nonneg_right (Int.natCast_nonneg _)

/-- A machine on which a microsecond goes by on every occasion. -/
def steadyMachine : Machine where
  calls := loopback.calls
  origin := 5000
  elapse _ := 1000

/-- A packet in three centuries is an accepted rate, and its period a 64-bit count. On a machine
that has been up for 36 years the first deadline that it moves on does not fit. -/
example : sendPeriod (11 / 10 ^ 11) = some 9090909090909090909 ∧
    runTimed { steadyMachine with origin := 2 ^ 60 }
      { eightPackets with rateHz := some (11 / 10 ^ 11) } 9090909090909090909 (some never) 8 =
        .error .overflow := by
  decide +kernel

end Run

end Driveflow.Simulator

import Driveflow.Laws.Runtime.SampleCalls

/-!
# The sample processor under concurrent calls

Each counter is the number of calls that have passed the phases it stands for (`counter_eq`), so the
documented equations are partitions of the phases, off by the calls that stand between two
increments. What a call holds on its way is the sample of its own packet (`Sound`), and it invokes
the handler once, when it passes from its counters to the handler.
-/

namespace Driveflow.Runtime

open Library Net Protocol

namespace SensorSampleProcessor

/-! ## What one step can do -/

/-- A call is made, or one call goes on. -/
inductive Transition (processor : SensorSampleProcessor) : Event → SensorSampleProcessor → Prop where
  | called (packet : ReceivedPacket) :
    Transition processor (.called packet)
      { processor with calls := processor.calls ++ [(packet, .entered)] }
  | advanced {index : Nat} {packet : ReceivedPacket} {call call' : Call} {throws : Bool}
    {event : CallEvent} {metrics : SensorSampleProcessorMetrics}
    (at_ : processor.calls[index]? = some (packet, call))
    (step : advance processor.metrics packet throws call = some (metrics, call', event)) :
    Transition processor (.advanced index event)
      { metrics, calls := processor.calls.set index (packet, call') }

/-- Whatever an action does is one of the transitions. -/
theorem transition_of_perform {processor next : SensorSampleProcessor} {action : Action}
    {event : Event} (h : processor.perform action = some (next, event)) :
    Transition processor event next := by
  cases action with
  | call packet =>
    cases h
    exact .called packet
  | advance index throws =>
    obtain ⟨⟨packet, call⟩, hat, hrest⟩ := Option.bind_eq_some_iff.mp h
    obtain ⟨⟨metrics, call', event⟩, hstep, hend⟩ := Option.bind_eq_some_iff.mp hrest
    cases hend
    exact .advanced hat hstep

/-- A processor begins without calls and with all counters at zero. -/
theorem eq_of_initial {processor : SensorSampleProcessor} (h : system.initial processor) :
    processor = {} := by
  obtain ⟨metrics, hmake, rfl⟩ := h
  obtain rfl := Except.ok.inj hmake
  rfl

/-- A call that has returned or thrown. -/
def Call.finished : Call → Bool
  | .returned _ | .threw => true
  | _ => false

/-- A call that has not finished can go on. -/
theorem exists_advance (metrics : SensorSampleProcessorMetrics) (packet : ReceivedPacket)
    (throws : Bool) {call : Call} (running : call.finished = false) :
    ∃ next, advance metrics packet throws call = some next := by
  cases call with
  | examined =>
    obtain ⟨result, hresult, _⟩ := decodeSensorPayload_answers
      packet.packet.header.messageType packet.packet.payload
    simp only [advance, hresult, Option.bind_eq_bind, Option.bind_some]
    cases result.payload with
    | none => exact ⟨_, rfl⟩
    | some payload => exact ⟨_, rfl⟩
  | handling sample => cases throws <;> exact ⟨_, rfl⟩
  | returned error => cases running
  | threw => cases running
  | _ => exact ⟨_, rfl⟩

/-! ## The counters -/

/-- A phase that comes after the increment of `samples_decoded`. -/
def Phase.pastDecoded : Phase → Bool
  | .decoded | .counted | .handling | .done | .threw => true
  | _ => false

/-- A phase that comes after the increment of a type counter. -/
def Phase.pastCounted : Phase → Bool
  | .counted | .handling | .done | .threw => true
  | _ => false

/-- How many calls stand in a phase of a kind. -/
def callsIn (processor : SensorSampleProcessor) (kind : Phase → Bool) : Nat :=
  processor.calls.countP fun call => kind call.2.phase

section Counters

variable {trace : List Event} {processor : SensorSampleProcessor}

/-- **A counter is the number of calls past its increment**, if every event moves both alike. -/
theorem counter_eq (run : system.Reaches trace processor)
    (counter : SensorSampleProcessorMetrics → BitVec 64) (kind : Phase → Bool)
    (zero : counter {} = 0) (outside : kind .entered = false)
    (moves : ∀ metrics event, counter (CallEvent.tally metrics event) +
        BitVec.ofNat 64 (if kind event.origin then 1 else 0) =
      counter metrics + BitVec.ofNat 64 (if kind event.target then 1 else 0)) :
    counter processor.metrics = BitVec.ofNat 64 (processor.callsIn kind) := by
  refine run.invariant (fun _ processor =>
    counter processor.metrics = BitVec.ofNat 64 (processor.callsIn kind)) ?_ ?_
  · intro processor hinitial
    rw [eq_of_initial hinitial]
    exact zero
  · rintro trace processor event next _ heq ⟨action, hperform⟩
    cases transition_of_perform hperform with
    | called packet =>
      rw [callsIn, List.countP_append, List.countP_singleton]
      have hentered : kind (Call.phase .entered) = false := outside
      rw [hentered, if_neg Bool.false_ne_true]
      exact heq
    | @advanced index packet call call' throws event metrics hat hstep =>
      obtain ⟨horigin, htarget, rfl, _⟩ := advance_spec hstep
      have hset := countP_set_add hat (fun call => kind call.2.phase) (packet, call')
      dsimp only at hset
      rw [horigin, htarget] at hset
      have hmoves := moves processor.metrics event
      rw [heq, ← BitVec.ofNat_add, callsIn, ← hset, BitVec.ofNat_add] at hmoves
      exact (BitVec.add_left_inj _).mp hmoves

/-- `packets_examined` counts the calls behind their first increment. -/
theorem packetsExamined_eq (run : system.Reaches trace processor) :
    processor.metrics.packetsExamined =
      BitVec.ofNat 64 (processor.callsIn fun phase => phase ≠ .entered) := by
  refine counter_eq run _ _ rfl rfl fun metrics event => ?_
  rw [(tally_outcome metrics event).1, BitVec.add_assoc, ← BitVec.ofNat_add]
  cases event <;> rfl

/-- `samples_decoded` counts the calls whose payload was decoded. -/
theorem samplesDecoded_eq (run : system.Reaches trace processor) :
    processor.metrics.samplesDecoded = BitVec.ofNat 64 (processor.callsIn Phase.pastDecoded) := by
  refine counter_eq run _ _ rfl rfl fun metrics event => ?_
  rw [(tally_outcome metrics event).2.1, BitVec.add_assoc, ← BitVec.ofNat_add]
  cases event <;> rfl

/-- `payloads_rejected` counts the calls whose payload was not. -/
theorem payloadsRejected_eq (run : system.Reaches trace processor) :
    processor.metrics.payloadsRejected =
      BitVec.ofNat 64 (processor.callsIn fun phase => phase = .rejected) := by
  refine counter_eq run _ _ rfl rfl fun metrics event => ?_
  rw [(tally_outcome metrics event).2.2, BitVec.add_assoc, ← BitVec.ofNat_add]
  cases event <;> rfl

/-- The sum of the type counters. -/
def typeCounts (metrics : SensorSampleProcessorMetrics) : BitVec 64 :=
  metrics.imuSamples + metrics.gnssSamples + metrics.cameraMetaSamples

/-- One step of a call bumps at most one of the type counters. -/
theorem typeCounts_tally (metrics : SensorSampleProcessorMetrics) (event : CallEvent) :
    typeCounts (event.tally metrics) =
      typeCounts metrics + BitVec.ofNat 64 (if event.target = .counted then 1 else 0) := by
  have same (value : BitVec 64) : value = value + BitVec.ofNat 64 0 := (BitVec.add_zero _).symm
  cases event with
  | counted sample =>
    obtain ⟨_, _, _, _, _, payload⟩ := sample
    cases payload with
    | imuSample _ =>
      change metrics.imuSamples + 1 + metrics.gnssSamples + metrics.cameraMetaSamples =
        metrics.imuSamples + metrics.gnssSamples + metrics.cameraMetaSamples + 1
      ac_rfl
    | gnssFix _ =>
      change metrics.imuSamples + (metrics.gnssSamples + 1) + metrics.cameraMetaSamples =
        metrics.imuSamples + metrics.gnssSamples + metrics.cameraMetaSamples + 1
      ac_rfl
    | cameraMeta _ => exact (BitVec.add_assoc _ _ _).symm
  | _ => exact same _

/-- The type counters together count the calls that have bumped one. -/
theorem typeCounts_eq (run : system.Reaches trace processor) :
    typeCounts processor.metrics = BitVec.ofNat 64 (processor.callsIn Phase.pastCounted) := by
  refine counter_eq run _ _ rfl rfl fun metrics event => ?_
  rw [typeCounts_tally, BitVec.add_assoc, ← BitVec.ofNat_add]
  cases event <;> rfl

/-- A kind of phase that is two others. -/
theorem callsIn_add (processor : SensorSampleProcessor) {kind first second : Phase → Bool}
    (h : ∀ phase, (if kind phase then 1 else 0) =
      (if first phase then 1 else 0) + if second phase then 1 else 0) :
    processor.callsIn kind = processor.callsIn first + processor.callsIn second := by
  unfold callsIn
  induction processor.calls with
  | nil => rfl
  | cons call calls ih =>
    rw [List.countP_cons, List.countP_cons, List.countP_cons, ih, h call.2.phase]
    omega

end Counters

/-! ## The handler -/

/-- The sample of a packet: its payload decoded, with its header and endpoints. -/
structure SampleOf (packet : ReceivedPacket) (sample : SensorSample) : Prop where
  variant : sample.payload.messageType = packet.packet.header.messageType
  payload : encodeSensorPayload sample.payload = .ok packet.packet.payload
  sequenceNumber : sample.sequenceNumber = packet.packet.header.sequenceNumber
  sourceTimestampNs : sample.sourceTimestampNs = packet.packet.header.sourceTimestampNs
  receiveTimestampNs : sample.receiveTimestampNs = packet.receiveTimestampNs
  source : sample.source = packet.source
  listener : sample.listener = packet.listener

/-- The sample made of a decoded payload is the one of its packet. -/
theorem sampleOf_makeSample {packet : ReceivedPacket} {payload : SensorPayload}
    {result : DecodeSensorPayloadResult}
    (decodes : decodeSensorPayload packet.packet.header.messageType packet.packet.payload =
      some result) (hpayload : result.payload = some payload) :
    SampleOf packet (makeSample packet payload) := by
  obtain ⟨hvariant, hvalid, hbytes⟩ := decodeSensorPayload_iff.mp ⟨result, decodes, hpayload⟩
  exact ⟨hvariant, (encodeSensorPayload_eq hvalid).trans (congrArg _ hbytes.symm), rfl, rfl, rfl,
    rfl, rfl⟩

/-- A phase that comes after the invocation of the handler. -/
def Phase.pastInvoked : Phase → Bool
  | .handling | .done | .threw => true
  | _ => false

/-- What a call knows of its packet. -/
def Sound (packet : ReceivedPacket) : Call → Prop
  | .entered | .examined => True
  | .decoded sample | .counted sample | .handling sample =>
    SampleOf packet sample ∧ payloadDecodes packet = true
  | .returned error => payloadDecodes packet = decide (error = .kNone)
  | .threw => payloadDecodes packet = true

/-- **A step of a call keeps to its packet**, and hands the handler its sample. -/
theorem Sound.advance {metrics metrics' : SensorSampleProcessorMetrics} {packet : ReceivedPacket}
    {throws : Bool} {call call' : Call} {event : CallEvent} (sound : Sound packet call)
    (step : SensorSampleProcessor.advance metrics packet throws call =
      some (metrics', call', event)) :
    Sound packet call' ∧ ∀ sample, event = .handlerInvoked sample → SampleOf packet sample := by
  cases call with
  | entered =>
    cases step
    exact ⟨trivial, by simp⟩
  | examined =>
    obtain ⟨result, hresult, hanswers⟩ := decodeSensorPayload_answers
      packet.packet.header.messageType packet.packet.payload
    have hdecodes : payloadDecodes packet = result.payload.isSome := by
      rw [payloadDecodes, hresult]
      rfl
    simp only [SensorSampleProcessor.advance, hresult, Option.bind_eq_bind, Option.bind_some]
      at step
    cases hpayload : result.payload with
    | none =>
      rw [hpayload] at step hdecodes
      cases step
      exact ⟨hdecodes.trans (decide_eq_false (hanswers.mp hpayload)).symm, by simp⟩
    | some payload =>
      have hsample := sampleOf_makeSample hresult hpayload
      rw [hpayload] at step hdecodes
      cases step
      exact ⟨⟨hsample, hdecodes⟩, by simp⟩
  | decoded sample =>
    cases step
    exact ⟨sound, by simp⟩
  | counted sample =>
    cases step
    refine ⟨sound, fun _ h => ?_⟩
    cases h
    exact sound.1
  | handling sample =>
    cases throws with
    | true =>
      cases step
      exact ⟨sound.2, by simp⟩
    | false =>
      cases step
      exact ⟨sound.2, by simp⟩
  | returned error => cases step
  | threw => cases step

/-- How often a call invoked the handler. -/
def invocations (index : Nat) (trace : List Event) : Nat :=
  trace.countP fun
    | .advanced other (.handlerInvoked _) => other = index
    | _ => false

/-- What the calls have done so far. -/
structure Handles (trace : List Event) (processor : SensorSampleProcessor) : Prop where
  sound : ∀ (index : Nat) (packet : ReceivedPacket) (call : Call),
    processor.calls[index]? = some (packet, call) → Sound packet call
  invoked : ∀ index, invocations index trace =
    processor.calls[index]?.elim 0 fun call => if call.2.phase.pastInvoked then 1 else 0
  samples : ∀ index sample, Event.advanced index (.handlerInvoked sample) ∈ trace →
    ∃ packet call, processor.calls[index]? = some (packet, call) ∧ SampleOf packet sample

/-- A new call has invoked no handler yet. -/
theorem handles_called {trace : List Event} {processor : SensorSampleProcessor}
    (h : Handles trace processor) (packet : ReceivedPacket) :
    Handles (trace ++ [.called packet])
      { processor with calls := processor.calls ++ [(packet, .entered)] } where
  sound index packet' call hat := by
    rcases List.mem_append.mp (List.mem_of_getElem? hat) with hmem | hmem
    · obtain ⟨index', hat'⟩ := List.mem_iff_getElem?.mp hmem
      exact h.sound index' packet' call hat'
    · obtain ⟨rfl, rfl⟩ := Prod.mk.inj (List.mem_singleton.mp hmem)
      exact trivial
  invoked index := by
    have hnone : invocations index [Event.called packet] = 0 := rfl
    have hsplit : invocations index (trace ++ [.called packet]) =
        invocations index trace + invocations index [.called packet] := List.countP_append
    rw [hsplit, hnone, Nat.add_zero, h.invoked index]
    rcases Nat.lt_trichotomy index processor.calls.length with hlt | heq | hgt
    · rw [List.getElem?_append_left hlt]
    · rw [List.getElem?_eq_none (Nat.le_of_eq heq.symm), heq, List.getElem?_concat_length]
      rfl
    · rw [List.getElem?_eq_none (Nat.le_of_lt hgt),
        List.getElem?_eq_none (List.length_append.trans_le hgt)]
  samples index sample hmem := by
    rcases List.mem_append.mp hmem with hmem | hmem
    · obtain ⟨packet', call, hat, hsample⟩ := h.samples index sample hmem
      exact ⟨packet', call, List.getElem?_append_left (List.getElem?_eq_some_iff.mp hat).1 ▸ hat,
        hsample⟩
    · cases List.mem_singleton.mp hmem

/-- A step of one call leaves the others as they are. Its own call has invoked the handler from
the step on that says so, with the sample of its packet. -/
theorem handles_advanced {trace : List Event} {processor : SensorSampleProcessor}
    (h : Handles trace processor) {index : Nat} {packet : ReceivedPacket} {call call' : Call}
    {throws : Bool} {event : CallEvent} {metrics : SensorSampleProcessorMetrics}
    (hat : processor.calls[index]? = some (packet, call))
    (step : advance processor.metrics packet throws call = some (metrics, call', event)) :
    Handles (trace ++ [.advanced index event])
      { metrics, calls := processor.calls.set index (packet, call') } := by
  obtain ⟨hlt, _⟩ := List.getElem?_eq_some_iff.mp hat
  obtain ⟨horigin, htarget, _, _⟩ := advance_spec step
  obtain ⟨hsound, hsample⟩ := (h.sound index packet call hat).advance step
  constructor
  · intro other packet' call'' hother
    rw [List.getElem?_set] at hother
    split at hother
    · cases hother
      exact hsound
    · exact h.sound other packet' call'' hother
  · intro other
    have hsplit : invocations other (trace ++ [.advanced index event]) =
        invocations other trace + invocations other [.advanced index event] := List.countP_append
    rw [hsplit, h.invoked other, List.getElem?_set]
    by_cases hsame : index = other
    · subst hsame
      rw [if_pos rfl, if_pos hlt, hat, Option.elim_some, Option.elim_some, horigin, htarget]
      cases event with
      | handlerInvoked sample =>
        have hone : invocations index [Event.advanced index (.handlerInvoked sample)] = 1 := by
          rw [invocations, List.countP_singleton]
          exact if_pos (decide_eq_true rfl)
        rw [hone]
        rfl
      | _ => rfl
    · rw [if_neg hsame]
      cases event with
      | handlerInvoked sample =>
        have hnone : invocations other [Event.advanced index (.handlerInvoked sample)] = 0 := by
          rw [invocations, List.countP_singleton]
          exact if_neg (of_decide_eq_false (decide_eq_false fun h => hsame (of_decide_eq_true h)))
        rw [hnone, Nat.add_zero]
      | _ => exact Nat.add_zero _
  · intro other sample hmem
    have hkeeps (packet' : ReceivedPacket) (call'' : Call)
        (hother : processor.calls[other]? = some (packet', call'')) :
        ∃ call, (processor.calls.set index (packet, call'))[other]? = some (packet', call) := by
      rw [List.getElem?_set]
      by_cases hsame : index = other
      · subst hsame
        rw [hat] at hother
        cases hother
        exact ⟨call', by rw [if_pos rfl, if_pos hlt]⟩
      · exact ⟨call'', by rw [if_neg hsame, hother]⟩
    rcases List.mem_append.mp hmem with hmem | hmem
    · obtain ⟨packet', call'', hother, hsampleOf⟩ := h.samples other sample hmem
      obtain ⟨call, hset⟩ := hkeeps packet' call'' hother
      exact ⟨packet', call, hset, hsampleOf⟩
    · cases List.mem_singleton.mp hmem
      obtain ⟨call, hset⟩ := hkeeps packet _ hat
      exact ⟨packet, call, hset, hsample sample rfl⟩

/-- So it holds in every run. -/
theorem handles_of_reaches {trace : List Event} {processor : SensorSampleProcessor}
    (run : system.Reaches trace processor) : Handles trace processor := by
  refine run.invariant Handles ?_ ?_
  · intro processor hinitial
    rw [eq_of_initial hinitial]
    exact ⟨nofun, fun _ => rfl, fun _ _ h => absurd h List.not_mem_nil⟩
  · rintro trace processor event next _ h ⟨action, hperform⟩
    cases transition_of_perform hperform with
    | called packet => exact handles_called h packet
    | advanced hat hstep => exact handles_advanced h hat hstep

/-! ## The theorem -/

/-- What the counters and the handler have seen, at any point of any interleaving. A call counts as
made from its first increment on. -/
structure SampleLedger (trace : List Event) (processor : SensorSampleProcessor) : Prop where
  examined : processor.metrics.packetsExamined =
    processor.metrics.samplesDecoded + processor.metrics.payloadsRejected +
      BitVec.ofNat 64 (processor.callsIn fun phase => phase = .examined)
  decoded : processor.metrics.samplesDecoded =
    processor.metrics.imuSamples + processor.metrics.gnssSamples +
      processor.metrics.cameraMetaSamples +
      BitVec.ofNat 64 (processor.callsIn fun phase => phase = .decoded)
  finished : (∀ call ∈ processor.calls, call.2.finished = true) →
    processor.metrics.packetsExamined =
        processor.metrics.samplesDecoded + processor.metrics.payloadsRejected ∧
      processor.metrics.samplesDecoded =
        processor.metrics.imuSamples + processor.metrics.gnssSamples +
          processor.metrics.cameraMetaSamples
  /-- A call that has not finished can go on, however its handler ends. -/
  goesOn : ∀ (index : Nat) (packet : ReceivedPacket) (call : Call) (throws : Bool),
    processor.calls[index]? = some (packet, call) →
    call.finished = false → (processor.perform (.advance index throws)).isSome
  /-- At most once on the way, and exactly once in the end, if and only if the payload decodes. -/
  handled : ∀ (index : Nat) (packet : ReceivedPacket) (call : Call),
    processor.calls[index]? = some (packet, call) →
    invocations index trace ≤ (if payloadDecodes packet then 1 else 0) ∧
      (call.finished = true →
        invocations index trace = if payloadDecodes packet then 1 else 0)
  samples : ∀ index sample, Event.advanced index (.handlerInvoked sample) ∈ trace →
    ∃ packet call, processor.calls[index]? = some (packet, call) ∧ SampleOf packet sample

/-- **Sample processor counters under concurrent calls.** -/
theorem sample_ledger (trace : List Event) (processor : SensorSampleProcessor)
    (run : system.Reaches trace processor) : SampleLedger trace processor := by
  have hhandles := handles_of_reaches run
  have hexamined : processor.metrics.packetsExamined =
      processor.metrics.samplesDecoded + processor.metrics.payloadsRejected +
        BitVec.ofNat 64 (processor.callsIn fun phase => phase = .examined) := by
    rw [packetsExamined_eq run, samplesDecoded_eq run, payloadsRejected_eq run,
      ← BitVec.ofNat_add, ← BitVec.ofNat_add]
    refine congrArg _ ?_
    have hdone : processor.callsIn (fun phase => phase.pastDecoded || phase = .rejected) =
        processor.callsIn Phase.pastDecoded + processor.callsIn fun phase => phase = .rejected :=
      callsIn_add processor fun phase => by cases phase <;> rfl
    rw [← hdone]
    exact callsIn_add processor fun phase => by cases phase <;> rfl
  have hdecoded : processor.metrics.samplesDecoded =
      processor.metrics.imuSamples + processor.metrics.gnssSamples +
        processor.metrics.cameraMetaSamples +
        BitVec.ofNat 64 (processor.callsIn fun phase => phase = .decoded) := by
    refine (samplesDecoded_eq run).trans ?_
    have htypes : processor.metrics.imuSamples + processor.metrics.gnssSamples +
        processor.metrics.cameraMetaSamples = _ := typeCounts_eq run
    rw [htypes, ← BitVec.ofNat_add]
    exact congrArg _ (callsIn_add processor fun phase => by cases phase <;> rfl)
  have hnone (phase : Phase) (running : ∀ call : Call, call.finished = true → call.phase ≠ phase)
      (all : ∀ call ∈ processor.calls, call.2.finished = true) :
      BitVec.ofNat 64 (processor.callsIn fun other => other = phase) = 0 := by
    have hzero : processor.callsIn (fun other => other = phase) = 0 :=
      List.countP_eq_zero.mpr fun call hcall h =>
        running call.2 (all call hcall) (of_decide_eq_true h)
    rw [hzero]
    rfl
  have hfinishedPhase (call : Call) (h : call.finished = true) :
      call.phase = .done ∨ call.phase = .rejected ∨ call.phase = .threw := by
    cases call with
    | returned error =>
      by_cases herror : error = .kNone
      · exact .inl (if_pos herror)
      · exact .inr (.inl (if_neg herror))
    | threw => exact .inr (.inr rfl)
    | _ => cases h
  exact {
    examined := hexamined
    decoded := hdecoded
    finished := fun all => by
      constructor
      · rw [hexamined, hnone .examined (fun call hcall => by
          rcases hfinishedPhase call hcall with h | h | h <;> rw [h] <;> nofun) all]
        exact BitVec.add_zero _
      · rw [hdecoded, hnone .decoded (fun call hcall => by
          rcases hfinishedPhase call hcall with h | h | h <;> rw [h] <;> nofun) all]
        exact BitVec.add_zero _
    goesOn := fun index packet call throws hat hrunning => by
      obtain ⟨⟨metrics, call', event⟩, hstep⟩ :=
        exists_advance processor.metrics packet throws hrunning
      simp only [perform, hat, hstep, Option.bind_eq_bind, Option.bind_some, Option.isSome_some]
    handled := fun index packet call hat => by
      have hsound := hhandles.sound index packet call hat
      rw [hhandles.invoked index, hat, Option.elim_some]
      cases call with
      | handling sample =>
        rw [hsound.2]
        exact ⟨Nat.le_refl 1, nofun⟩
      | returned error =>
        have hdecodes : payloadDecodes packet = decide (error = .kNone) := hsound
        rw [hdecodes]
        by_cases herror : error = .kNone
        · subst herror
          exact ⟨Nat.le_refl 1, fun _ => rfl⟩
        · have hphase : (Call.returned error).phase = .rejected := if_neg herror
          rw [hphase, decide_eq_false herror]
          exact ⟨Nat.le_refl 0, fun _ => rfl⟩
      | threw =>
        have hdecodes : payloadDecodes packet = true := hsound
        rw [hdecodes]
        exact ⟨Nat.le_refl 1, fun _ => rfl⟩
      | _ => exact ⟨Nat.zero_le _, nofun⟩
    samples := hhandles.samples }

/-- A packet with a sample of rest, and the empty packet, which has none. -/
def restPacket : ReceivedPacket :=
  { packet := { payload := List.replicate kImuPayloadSize 0 } }

def restSample : SensorSample :=
  makeSample restPacket (.imuSample
    { linearAccelerationMps2 := ⟨⟨0⟩, ⟨0⟩, ⟨0⟩⟩, angularVelocityRps := ⟨⟨0⟩, ⟨0⟩, ⟨0⟩⟩ })

/-- Two calls by turns; the handler throws. -/
theorem sample_ledger_throws :
    ∃ trace processor, system.Reaches trace processor ∧ SampleLedger trace processor ∧
      (∀ call ∈ processor.calls, call.2.finished = true) ∧ processor.calls.length = 2 ∧
      processor.metrics.packetsExamined = 2 ∧ invocations 0 trace = 1 := by
  have hschedule : performAll perform {}
      [.call restPacket, .advance 0 true, .call {}, .advance 0 true, .advance 1 true,
        .advance 0 true, .advance 1 true, .advance 0 true, .advance 0 true] =
      some ({ metrics := { packetsExamined := 2, samplesDecoded := 1, payloadsRejected := 1
                           imuSamples := 1 }
              calls := [(restPacket, .threw), ({}, .returned .kSizeMismatch)] },
        [.called restPacket, .advanced 0 .examined, .called {}, .advanced 0 .decoded,
          .advanced 1 .examined, .advanced 0 (.counted restSample), .advanced 1 .rejected,
          .advanced 0 (.handlerInvoked restSample), .advanced 0 .handlerThrew]) := by
    decide +kernel
  have hstart : system.Reaches [] {} := .start ⟨{}, rfl, rfl⟩
  have hrun := hstart.performAll (fun _ action _ _ h => ⟨action, h⟩) _ hschedule
  refine ⟨_, _, hrun, sample_ledger _ _ hrun, ?_, rfl, rfl, rfl⟩
  decide

end SensorSampleProcessor

end Driveflow.Runtime

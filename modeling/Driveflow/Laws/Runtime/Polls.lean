import Driveflow.Laws.Runtime.Ledger

/-!
# What a run makes of its polls

The I/O thread considers what the polls return in their order (`considered_sublist`), and the
pipeline accepts what is considered in its order (`accepted_sublist`). A check inside the `for` loop
may leave the rest of a batch out, and the loop go on with another poll; if the stop predicate stays
with its yes, that is the end of the polls (`attentive`).
-/

namespace Driveflow.Runtime

open Library Net Protocol

namespace Run

open WorkerPipeline (acceptedPackets)

/-! ## The I/O thread and its polls -/

/-- The batches the polls returned. -/
def polls (trace : List Event) : List (List ReceivedPacket) :=
  trace.filterMap fun
    | .polled packets => some packets
    | _ => none

/-- The packets the polls returned. -/
def polledPackets (trace : List Event) : List ReceivedPacket := (polls trace).flatten

/-- What the I/O thread has yet to consider of its batch. -/
def Stage.upcoming : Stage → List ReceivedPacket
  | .batch packet rest | .observing packet rest => packet :: rest
  | .submitting _ rest | .refused _ rest | .counting rest => rest
  | _ => []

/-- The stop predicate stays with its yes. -/
def Latched (trace : List Event) : Prop :=
  ∀ before after, trace = before ++ .stopAsked true :: after →
    ∀ answer, Event.stopAsked answer ∈ after → answer = true

section Polls

variable {config : RuntimeConfig} {trace : List Event} {state : State}

theorem upcoming_continue (packets : List ReceivedPacket) :
    (Stage.continue packets).upcoming = packets := by
  cases packets <;> rfl

theorem polledPackets_append (trace trace' : List Event) :
    polledPackets (trace ++ trace') = polledPackets trace ++ polledPackets trace' := by
  rw [polledPackets, polls, List.filterMap_append, List.flatten_append]
  rfl

/-- **The I/O thread considers what the polls returned, in order**, and nothing twice. -/
theorem considered_sublist (run : (system config).Reaches trace state) :
    List.Sublist (consideredPackets trace ++ state.stage.upcoming) (polledPackets trace) := by
  refine run.invariant (fun trace state =>
    List.Sublist (consideredPackets trace ++ state.stage.upcoming) (polledPackets trace)) ?_ ?_
  · rintro _ ⟨_, _, _, _, _, rfl⟩
    exact List.Sublist.refl _
  · rintro trace state event next _ hsublist ⟨action, hperform⟩
    rw [consideredPackets_append, polledPackets_append]
    have hstep := transition_of_perform hperform
    -- a step that polls and considers nothing, and gives nothing to the I/O thread
    have silent (considered : consideredPackets [event] = []) (polled : polledPackets [event] = [])
        (upcoming : List.Sublist next.stage.upcoming state.stage.upcoming) :
        List.Sublist (consideredPackets trace ++ consideredPackets [event] ++ next.stage.upcoming)
          (polledPackets trace ++ polledPackets [event]) := by
      rw [considered, polled, List.append_nil, List.append_nil]
      exact ((List.Sublist.refl _).append upcoming).trans hsublist
    cases hstep with
    | decided answer stands =>
      refine silent rfl rfl ?_
      dsimp only
      split <;> exact List.nil_sublist _
    | checked answer packet rest stands =>
      refine silent rfl rfl ?_
      dsimp only
      rw [stands]
      split
      · exact List.nil_sublist _
      · exact List.Sublist.refl _
    | polled packets receiverMetrics stands =>
      rw [stands] at hsublist
      have hconsidered : consideredPackets [Event.polled packets] = [] := rfl
      have hpolled : polledPackets [Event.polled packets] = packets := List.append_nil packets
      rw [hconsidered, hpolled, List.append_nil, upcoming_continue]
      have hbefore : List.Sublist (consideredPackets trace) (polledPackets trace) := by
        rw [← List.append_nil (consideredPackets trace)]
        exact hsublist
      exact hbefore.append (List.Sublist.refl packets)
    | considered packet rest stands =>
      rw [stands] at hsublist
      have hconsidered : consideredPackets [Event.considered packet] = [packet] := rfl
      have hpolled : polledPackets [Event.considered packet] = [] := rfl
      rw [hconsidered, hpolled, List.append_nil, List.append_assoc]
      exact hsublist
    | refused packet rest pipeline stands submits =>
      refine silent rfl rfl ?_
      rw [stands]
      exact List.Sublist.refl _
    | submitted packet rest pipeline result stands settled submits =>
      refine silent rfl rfl ?_
      rw [stands]
      exact List.Sublist.refl _
    | dropObserved packet rest stands =>
      refine silent rfl rfl ?_
      rw [stands]
      exact List.Sublist.refl _
    | counted rest stands =>
      refine silent rfl rfl ?_
      dsimp only
      rw [stands, upcoming_continue]
      exact List.Sublist.refl _
    | clockRead | stopped | returned => exact silent rfl rfl (List.nil_sublist _)
    | _ => exact silent rfl rfl (List.Sublist.refl _)

/-- **The pipeline accepts what is considered, in order.** -/
theorem accepted_sublist (run : (system config).Reaches trace state) :
    List.Sublist (acceptedPackets (pipelineEvents trace) ++ state.stage.pending)
      (consideredPackets trace) := by
  refine run.invariant (fun trace state =>
    List.Sublist (acceptedPackets (pipelineEvents trace) ++ state.stage.pending)
      (consideredPackets trace)) ?_ ?_
  · rintro _ ⟨_, _, _, _, _, rfl⟩
    exact List.Sublist.refl _
  · rintro trace state event next _ hsublist ⟨action, hperform⟩
    rw [consideredPackets_append, pipelineEvents_append, WorkerPipeline.acceptedPackets_append]
    have hbefore : List.Sublist (acceptedPackets (pipelineEvents trace)) (consideredPackets trace) :=
      (List.sublist_append_left _ _).trans hsublist
    -- a step that accepts nothing, and leaves nothing to submit
    have silent (accepted : acceptedPackets (pipelineEvents [event]) = [])
        (pending : next.stage.pending = []) :
        List.Sublist (acceptedPackets (pipelineEvents trace) ++
            acceptedPackets (pipelineEvents [event]) ++ next.stage.pending)
          (consideredPackets trace ++ consideredPackets [event]) := by
      rw [accepted, pending, List.append_nil, List.append_nil]
      exact hbefore.trans (List.sublist_append_left _ _)
    -- a step of another thread
    have other (accepted : acceptedPackets (pipelineEvents [event]) = [])
        (pending : next.stage.pending = state.stage.pending) :
        List.Sublist (acceptedPackets (pipelineEvents trace) ++
            acceptedPackets (pipelineEvents [event]) ++ next.stage.pending)
          (consideredPackets trace ++ consideredPackets [event]) := by
      rw [accepted, pending, List.append_nil]
      exact hsublist.trans (List.sublist_append_left _ _)
    cases transition_of_perform hperform with
    | decided answer stands =>
      refine silent rfl ?_
      dsimp only
      split <;> rfl
    | checked answer packet rest stands =>
      refine silent rfl ?_
      dsimp only
      split <;> rfl
    | polled packets receiverMetrics stands =>
      refine silent rfl ?_
      cases packets <;> rfl
    | considered packet rest stands =>
      have haccepted : acceptedPackets (pipelineEvents [Event.considered packet]) = [] := rfl
      have hconsidered : consideredPackets [Event.considered packet] = [packet] := rfl
      rw [haccepted, hconsidered, List.append_nil]
      exact hbefore.append (List.Sublist.refl [packet])
    | submitted packet rest pipeline result stands settled submits =>
      rw [stands] at hsublist
      have hconsidered :
          consideredPackets [Event.pipeline (.submitted packet result)] = [] := rfl
      rw [hconsidered, List.append_nil]
      cases result with
      | kAccepted => exact (List.append_nil _).symm ▸ hsublist
      | kQueueFull => exact absurd rfl settled
      | kStopped => exact (List.append_nil _).symm ▸ (List.append_nil _).symm ▸ hbefore
    | counted rest stands =>
      refine silent rfl ?_
      cases rest <;> rfl
    | refused | dropObserved | clockRead | stopped | returned => exact silent rfl rfl
    | stopSteps timestamp action event pipeline stands steps stop =>
      rcases stop with rfl | rfl <;> exact other rfl rfl
    | _ => exact other rfl rfl

/-- The I/O thread is between batches, or past its loop. -/
def Stage.between : Stage → Bool
  | .deciding | .leaving | .stopping _ | .collecting _ _ | .returned => true
  | _ => false

/-- What the I/O thread has come to, as long as the stop predicate stays with its yes: it has
considered every batch but the last one to its end, and it has either yet to consider the rest of
that one or will not poll again. -/
structure Attentive (trace : List Event) (state : State) : Prop where
  earlier : (polls trace).dropLast.flatten <+: consideredPackets trace
  order : consideredPackets trace ++ state.stage.upcoming = polledPackets trace ∨
    consideredPackets trace <+: polledPackets trace ∧ state.stage.between = true ∧
      (Event.stopAsked true ∈ trace ∨ limitReached state = true)

/-- A step that polls and considers nothing. -/
private theorem Attentive.silent {event : Event} {next : State} (h : Attentive trace state)
    (considered : consideredPackets [event] = []) (polled : polls [event] = [])
    (upcoming : next.stage.upcoming = state.stage.upcoming)
    (between : state.stage.between = true → next.stage.between = true)
    (limit : state.stage.between = true → limitReached next = limitReached state) :
    Attentive (trace ++ [event]) next := by
  have hpolls : polls (trace ++ [event]) = polls trace := by
    rw [polls, List.filterMap_append]
    exact (congrArg (polls trace ++ ·) polled).trans (List.append_nil _)
  have hpolled : polledPackets (trace ++ [event]) = polledPackets trace :=
    congrArg List.flatten hpolls
  constructor
  · rw [hpolls, consideredPackets_append, considered, List.append_nil]
    exact h.earlier
  · rw [hpolled, consideredPackets_append, considered, List.append_nil, upcoming]
    refine h.order.imp_right fun hover => ?_
    refine ⟨hover.1, between hover.2.1, hover.2.2.imp (List.mem_append_left _) fun hlimit => ?_⟩
    rw [limit hover.2.1]
    exact hlimit

/-- In the middle of a batch, what is not considered is still to come. -/
private theorem Attentive.batch (h : Attentive trace state) (inside : state.stage.between = false) :
    consideredPackets trace ++ state.stage.upcoming = polledPackets trace := by
  refine h.order.resolve_right fun hover => ?_
  exact Bool.false_ne_true (inside.symm.trans hover.2.1)

/-- Every step keeps this: a batch is left early only for an answer or a count that ends the loop,
and where such an answer is kept the loop does not poll again. -/
theorem Attentive.step {event : Event} {next : State} (h : Attentive trace state)
    (latched : Latched (trace ++ [event])) (step : Transition state event next) :
    Attentive (trace ++ [event]) next := by
  have hpolls (polled : polls [event] = []) : polls (trace ++ [event]) = polls trace := by
    rw [polls, List.filterMap_append]
    exact (congrArg (polls trace ++ ·) polled).trans (List.append_nil _)
  cases step with
  | decided answer stands =>
    have hearlier := h.earlier
    have horder := h.order
    rw [stands] at horder
    constructor
    · rw [hpolls rfl, consideredPackets_append]
      exact hearlier.trans (List.prefix_append _ _)
    · rw [polledPackets, hpolls rfl, consideredPackets_append]
      have hconsidered : consideredPackets [Event.stopAsked answer] = [] := rfl
      rw [hconsidered, List.append_nil]
      rcases horder with hall | ⟨hleading, _, hover⟩
      · refine Or.inl ?_
        dsimp only
        split <;> exact hall
      · -- the loop was left inside a batch, so it is left here too
        have hleaves : (answer || limitReached state) = true := by
          rcases hover with hasked | hlimit
          · obtain ⟨before, after, rfl⟩ := List.append_of_mem hasked
            have hanswer := latched before (after ++ [.stopAsked answer])
              (List.append_assoc _ _ _) answer (List.mem_append_right _ List.mem_cons_self)
            rw [hanswer, Bool.true_or]
          · rw [hlimit, Bool.or_true]
        refine Or.inr ⟨hleading, ?_, hover.imp (List.mem_append_left _) id⟩
        dsimp only
        rw [if_pos hleaves]
        rfl
  | checked answer packet rest stands =>
    have hbatch := h.batch (by rw [stands]; rfl)
    rw [stands] at hbatch
    constructor
    · rw [hpolls rfl, consideredPackets_append]
      exact h.earlier.trans (List.prefix_append _ _)
    · rw [polledPackets, hpolls rfl, consideredPackets_append]
      have hconsidered : consideredPackets [Event.stopAsked answer] = [] := rfl
      rw [hconsidered, List.append_nil]
      dsimp only
      split
      next hleaves =>
        refine Or.inr ⟨⟨packet :: rest, hbatch⟩, rfl, ?_⟩
        rcases Bool.or_eq_true_iff.mp hleaves with hanswer | hlimit
        · rw [hanswer]
          exact Or.inl (List.mem_append_right _ List.mem_cons_self)
        · exact Or.inr hlimit
      next => exact Or.inl hbatch
  | polled packets receiverMetrics stands =>
    have hbatch := h.batch (by rw [stands]; rfl)
    rw [stands] at hbatch
    have hconsidered : consideredPackets (trace ++ [Event.polled packets]) =
        consideredPackets trace := by
      rw [consideredPackets_append]
      exact List.append_nil _
    have hall : consideredPackets trace = polledPackets trace := by
      rw [← List.append_nil (consideredPackets trace)]
      exact hbatch
    constructor
    · have hpolls : polls (trace ++ [Event.polled packets]) = polls trace ++ [packets] :=
        List.filterMap_append
      rw [hpolls, List.dropLast_concat, hconsidered, hall]
      exact List.prefix_refl _
    · refine Or.inl ?_
      rw [hconsidered, polledPackets_append, upcoming_continue, hall]
      exact congrArg _ (List.append_nil packets).symm
  | considered packet rest stands =>
    have hbatch := h.batch (by rw [stands]; rfl)
    rw [stands] at hbatch
    constructor
    · rw [hpolls rfl, consideredPackets_append]
      exact h.earlier.trans (List.prefix_append _ _)
    · refine Or.inl ?_
      rw [polledPackets, hpolls rfl, consideredPackets_append, List.append_assoc]
      exact hbatch
  | refused packet rest pipeline stands submits =>
    refine h.silent rfl rfl (by rw [stands]; rfl) (fun hbetween => ?_) fun hbetween => ?_ <;>
      rw [stands] at hbetween <;> cases hbetween
  | submitted packet rest pipeline result stands settled submits =>
    refine h.silent rfl rfl (by rw [stands]; rfl) (fun hbetween => ?_) fun hbetween => ?_ <;>
      rw [stands] at hbetween <;> cases hbetween
  | dropObserved packet rest stands =>
    refine h.silent rfl rfl (by rw [stands]; rfl) (fun hbetween => ?_) fun hbetween => ?_ <;>
      rw [stands] at hbetween <;> cases hbetween
  | counted rest stands =>
    refine h.silent rfl rfl ?_ (fun hbetween => ?_) fun hbetween => ?_
    · dsimp only
      rw [stands, upcoming_continue]
      rfl
    · rw [stands] at hbetween
      cases hbetween
    · rw [stands] at hbetween
      cases hbetween
  | clockRead timestamp stands =>
    exact h.silent rfl rfl (by rw [stands]; rfl) (fun _ => rfl) fun _ => rfl
  | stopped timestamp pipeline metrics stands steps =>
    exact h.silent rfl rfl (by rw [stands]; rfl) (fun _ => rfl) fun _ => rfl
  | returned timestamp metrics stands =>
    exact h.silent rfl rfl (by rw [stands]; rfl) (fun _ => rfl) fun _ => rfl
  | _ => exact h.silent rfl rfl rfl (fun hbetween => hbetween) fun _ => rfl

/-- **Nothing but the rest of the last batch is left out**, if the stop predicate stays with its
yes. -/
theorem attentive (run : (system config).Reaches trace state) (latched : Latched trace) :
    Attentive trace state := by
  refine run.invariant (fun trace state => Latched trace → Attentive trace state) ?_ ?_ latched
  · rintro _ ⟨_, _, _, _, _, rfl⟩ _
    exact ⟨List.prefix_refl _, Or.inl rfl⟩
  · rintro trace state event next _ hattentive ⟨action, hperform⟩ hlatched
    have hbefore : Latched trace := by
      intro before after heq answer hmem
      refine hlatched before (after ++ [event]) ?_ answer (List.mem_append_left _ hmem)
      rw [heq, List.append_assoc]
      rfl
    exact (hattentive hbefore).step hlatched (transition_of_perform hperform)

end Polls

end Run

end Driveflow.Runtime

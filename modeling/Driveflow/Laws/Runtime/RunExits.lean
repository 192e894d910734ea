import Driveflow.Laws.Runtime.HandedSamples
import Driveflow.Laws.Runtime.Shutdown
import Driveflow.Runtime.RunExits

/-!
# Leaving a run by an exception

Where the stop predicate or a poll throws, the run goes on like one in which the predicate said yes
(`matched`): the destructor of the pipeline is a `stop`. So an exception leaves `run` only when every
worker has been joined, none of them is left to use the sample processor or the monitor, and no
accepted packet is lost.
-/

namespace Driveflow.Runtime

open Library Net Protocol

namespace RunExits

open Run (consideredPackets handlerInvocations pipelineEvents)
open WorkerPipeline (acceptedPackets returnedPackets submittedPackets threwPackets)

/-! ## The steps of the workers -/

section Workers

variable (state : Run.State) {action : Run.Action}

/-- What the I/O thread does is nothing to a step of a worker. -/
theorem perform_stage (worker : ofWorker action = true) (stage : Run.Stage) :
    Run.perform { state with stage } action =
      (Run.perform state action).map fun result => ({ result.1 with stage }, result.2) := by
  have pipeline (action : WorkerPipeline.Action) :
      Run.performPipeline { state with stage } action =
        (Run.performPipeline state action).map fun result =>
          ({ result.1 with stage }, result.2) := by
    simp only [Run.performPipeline]
    cases state.pipeline.perform action <;> rfl
  cases action with
  | acquire index =>
    simp only [Run.perform, Run.acquire, pipeline]
    cases Run.performPipeline state (.acquire index) <;> rfl
  | advance index throws =>
    simp only [Run.perform, Run.advance, Run.processed?]
    cases hworker : state.pipeline.workers[index]? with
    | none => rfl
    | some worker =>
      cases worker with
      | processing packet =>
        cases hjob : state.jobs[index]? with
        | none => rfl
        | some job =>
          cases job with
          | processing call =>
            simp only [Option.bind_eq_bind, Option.bind_some]
            cases SensorSampleProcessor.advance state.sampleMetrics packet throws call <;> rfl
          | reported => rfl
      | _ => rfl
  | observeRejection index =>
    simp only [Run.perform, Run.observeRejection, Run.processed?]
    cases hworker : state.pipeline.workers[index]? with
    | none => rfl
    | some worker =>
      cases worker with
      | processing packet =>
        simp only [Option.bind_eq_bind, Option.bind_some]
        split
        · split <;> rfl
        · rfl
      | _ => rfl
  | finish index =>
    simp only [Run.perform, Run.finish, pipeline]
    split
    all_goals
      simp only [Option.bind_eq_bind, Option.bind_some, Option.bind_none, Option.map_none]
    all_goals
      cases Run.performPipeline state _ <;> rfl
  | _ => cases worker

/-- Workers that have returned take no step. -/
theorem perform_eq_none (exited : ∀ worker ∈ state.pipeline.workers, worker = .exited)
    (worker : ofWorker action = true) : Run.perform state action = none := by
  have gone (index : Nat) : state.pipeline.workers[index]? = none ∨
      state.pipeline.workers[index]? = some .exited := by
    cases hworker : state.pipeline.workers[index]? with
    | none => exact Or.inl rfl
    | some worker => exact Or.inr (congrArg some (exited worker (List.mem_of_getElem? hworker)))
  cases action with
  | acquire index =>
    have hacquire : state.pipeline.perform (.acquire index) = none := by
      simp only [WorkerPipeline.perform, WorkerPipeline.acquire]
      rcases gone index with h | h <;> rw [h]
    simp only [Run.perform, Run.acquire, Run.performPipeline, hacquire]
    rfl
  | advance index | observeRejection index =>
    have hprocessed : Run.processed? state index = none := by
      rw [Run.processed?]
      rcases gone index with h | h <;> rw [h]
    simp only [Run.perform, Run.advance, Run.observeRejection, hprocessed]
    rfl
  | finish index =>
    have hfinish (throws : Bool) : state.pipeline.perform (.finish index throws) = none := by
      simp only [WorkerPipeline.perform, WorkerPipeline.finish]
      rcases gone index with h | h <;> rw [h]
    simp only [Run.perform, Run.finish, Run.performPipeline, hfinish]
    split <;> rfl
  | _ => cases worker

end Workers

/-! ## The run without the exception -/

/-- The run in which the stop predicate says yes where this one throws. -/
def unwound (exits : RunExits) : Run.State :=
  match exits.exit with
  | .running => exits.run
  | .unwinding _ => { exits.run with stage := .stopping 0 }
  | .threw _ => { exits.run with stage := .collecting 0 exits.run.pipeline.metrics }

/-- An event that is more than a question of the I/O thread and its answer. -/
def inner : Run.Event → Bool
  | .stopAsked _ | .polled _ | .clockRead _ => false
  | _ => true

/-- The events of the run. -/
def runEvents (trace : List Event) : List Run.Event :=
  trace.filterMap fun
    | .run event => some event
    | .raised _ => none

/-- The two runs have done the same. -/
structure Related (trace : List Event) (exits : RunExits) (trace' : List Run.Event)
    (state : Run.State) : Prop where
  state : state = exits.unwound
  events : trace'.filter inner = (runEvents trace).filter inner

theorem runEvents_append (trace trace' : List Event) :
    runEvents (trace ++ trace') = runEvents trace ++ runEvents trace' :=
  List.filterMap_append

/-- What is read off the inner events is read off both traces. -/
theorem Related.filterMap_eq {Seen : Type} {trace : List Event} {exits : RunExits}
    {trace' : List Run.Event} {state : Run.State} (h : Related trace exits trace' state)
    (seen : Run.Event → Option Seen) (silent : ∀ event, inner event = false → seen event = none) :
    trace'.filterMap seen = (runEvents trace).filterMap seen := by
  have hinner (events : List Run.Event) :
      (events.filter inner).filterMap seen = events.filterMap seen := by
    rw [List.filterMap_filter]
    refine List.filterMap_congr fun event _ => ?_
    cases hevent : inner event with
    | true => rfl
    | false => exact (silent event hevent).symm
  rw [← hinner, h.events, hinner]

section Matching

variable {config : RuntimeConfig} {trace : List Event} {exits next : RunExits}
  {trace' : List Run.Event} {state : Run.State}

/-- From the condition of its loop the I/O thread comes to the stop, if the predicate says yes. -/
theorem path_stopping (stands : state.stage = .deciding) :
    (Run.system config).Path state [.stopAsked true, .clockRead 0]
      { state with stage := .stopping 0 } := by
  have hasked : Run.perform state (.askStop true) =
      some ({ state with stage := .leaving }, .stopAsked true) := by
    simp only [Run.perform, stands]
    rfl
  have hread : Run.perform { state with stage := .leaving } (.readClock 0) =
      some ({ state with stage := .stopping 0 }, .clockRead 0) := rfl
  have hleaving : (Run.system config).Path state [.stopAsked true] { state with stage := .leaving } :=
    (System.Path.nil state).snoc ⟨_, hasked⟩
  exact hleaving.snoc ⟨_, hread⟩

/-- Where something throws, the I/O thread can come to the stop by questions and answers alone. -/
theorem exists_path_stopping (throws : mayThrow state.stage = true) :
    ∃ labels, (Run.system config).Path state labels { state with stage := .stopping 0 } ∧
      labels.filter inner = [] := by
  cases hstage : state.stage with
  | deciding => exact ⟨_, path_stopping hstage, rfl⟩
  | batch packet rest =>
    have hasked : Run.perform state (.askStop true) =
        some ({ state with stage := .deciding }, .stopAsked true) := by
      simp only [Run.perform, hstage]
      rfl
    have hfirst : (Run.system config).Path state [.stopAsked true]
        { state with stage := .deciding } := (System.Path.nil state).snoc ⟨_, hasked⟩
    exact ⟨_, hfirst.append (path_stopping rfl), rfl⟩
  | polling =>
    have hpolled : Run.perform state (.poll [] state.receiverMetrics) =
        some ({ state with stage := .deciding }, .polled []) := by
      simp only [Run.perform, hstage]
      rfl
    have hfirst : (Run.system config).Path state [.polled []]
        { state with stage := .deciding } := (System.Path.nil state).snoc ⟨_, hpolled⟩
    exact ⟨_, hfirst.append (path_stopping rfl), rfl⟩
  | _ =>
    rw [hstage] at throws
    cases throws

/-- A step of the run itself. -/
theorem Related.step {action : Run.Action} {run : Run.State} {event : Run.Event}
    (h : Related trace exits trace' state) (steps : Run.perform state action = some (run, event))
    (next_eq : run = next.unwound) :
    ∃ labels t', (Run.system config).Path state labels t' ∧
      Related (trace ++ [.run event]) next (trace' ++ labels) t' := by
  refine ⟨[event], run, (System.Path.nil state).snoc ⟨action, steps⟩, next_eq, ?_⟩
  rw [List.filter_append, runEvents_append, List.filter_append, h.events]
  rfl

/-- A step of the destructor is a step of the stop. -/
theorem exists_destroyed {action : WorkerPipeline.Action} {exit : Exit} {event : Event}
    (h : exits.destroy action exit = some (next, event)) :
    ∃ pipeline event', exits.run.pipeline.perform action = some (pipeline, event') ∧
      next = { run := { exits.run with pipeline }, exit } ∧ event = .run (.pipeline event') := by
  obtain ⟨⟨run, seen⟩, hperform, hend⟩ := Option.bind_eq_some_iff.mp h
  obtain ⟨⟨pipeline, event'⟩, hpipeline, hrun⟩ := Option.bind_eq_some_iff.mp hperform
  cases hrun
  cases hend
  exact ⟨pipeline, _, hpipeline, rfl, rfl⟩

/-- While an exception leaves the run, each step is one of the run that is stopping. -/
theorem exists_step_of_leaving {action : Action} {event : Event} (leaving : exits.exit ≠ .running)
    (joined : ∀ exception, exits.exit = .threw exception →
      ∀ worker ∈ exits.run.pipeline.workers, worker = .exited)
    (h : exits.perform action = some (next, event)) :
    ∃ action' event', Run.perform exits.unwound action' = some (next.unwound, event') ∧
      event = .run event' ∧ event'.stops ∧ next.exit ≠ .running := by
  obtain ⟨run, exit⟩ := exits
  cases action with
  | step action =>
    simp only [perform] at h
    split at h
    next hallowed =>
      have hworker : ofWorker action = true := hallowed.resolve_left leaving
      obtain ⟨⟨run', event'⟩, hstep, hend⟩ := Option.bind_eq_some_iff.mp h
      cases hend
      cases exit with
      | running => exact absurd rfl leaving
      | unwinding exception =>
        have hsame := perform_stage run hworker (.stopping 0)
        rw [hstep] at hsame
        refine ⟨action, event', hsame, rfl, ?_, leaving⟩
        have hemits := Run.emits_of_perform hstep
        cases event' with
        | stopAsked answer =>
          cases action with
          | askStop answer => cases hworker
          | _ => cases hemits
        | _ => trivial
      | threw exception =>
        rw [perform_eq_none run (joined exception rfl) hworker] at hstep
        cases hstep
    next => cases h
  | raise exception =>
    simp only [perform] at h
    split at h
    next hraises => exact absurd hraises.1 leaving
    next => cases h
  | lockLifecycle =>
    cases exit with
    | unwinding exception =>
      obtain ⟨pipeline, event', hpipeline, rfl, rfl⟩ := exists_destroyed h
      have hstep : Run.perform { run with stage := .stopping 0 } .lockLifecycle =
          some ({ run with stage := .stopping 0, pipeline }, .pipeline event') := by
        simp only [Run.perform, Run.performPipeline, hpipeline]
        rfl
      exact ⟨_, _, hstep, rfl, trivial, by simp⟩
    | _ => cases h
  | requestStop =>
    cases exit with
    | unwinding exception =>
      obtain ⟨pipeline, event', hpipeline, rfl, rfl⟩ := exists_destroyed h
      have hstep : Run.perform { run with stage := .stopping 0 } .requestStop =
          some ({ run with stage := .stopping 0, pipeline }, .pipeline event') := by
        simp only [Run.perform, Run.performPipeline, hpipeline]
        rfl
      exact ⟨_, _, hstep, rfl, trivial, by simp⟩
    | _ => cases h
  | returnStop =>
    cases exit with
    | unwinding exception =>
      obtain ⟨pipeline, event', hpipeline, rfl, rfl⟩ := exists_destroyed h
      have hstep : Run.perform { run with stage := .stopping 0 } .returnStop =
          some ({ run with stage := .collecting 0 pipeline.metrics, pipeline },
            .pipeline event') := by
        simp only [Run.perform, Run.performPipeline, hpipeline]
        rfl
      exact ⟨_, _, hstep, rfl, trivial, by simp⟩
    | _ => cases h

/-- **An exception is matched by a yes**: whatever a run comes to that an exception leaves, a run in
which the stop predicate said yes comes to. -/
theorem matched (run : (system config).Reaches trace exits) :
    ∃ trace' state, (Run.system config).Reaches trace' state ∧
      Related trace exits trace' state := by
  refine run.simulate Related ?_ ?_
  · rintro _ ⟨run, hinitial, rfl⟩
    exact ⟨run, hinitial, rfl, rfl⟩
  · rintro trace exits event next trace' state hreaches hrelated ⟨action, hperform⟩
    by_cases hrunning : exits.exit = .running
    · obtain ⟨run, exit⟩ := exits
      obtain ⟨rfl, hevents⟩ := hrelated
      obtain rfl : exit = .running := hrunning
      cases action with
      | step action =>
        obtain ⟨⟨run', event'⟩, hstep, hend⟩ := Option.bind_eq_some_iff.mp hperform
        cases hend
        exact Related.step ⟨rfl, hevents⟩ hstep rfl
      | raise exception =>
        simp only [perform] at hperform
        split at hperform
        next hraises =>
          cases hperform
          obtain ⟨labels, hpath, hsilent⟩ := exists_path_stopping hraises.2
          refine ⟨labels, _, hpath, rfl, ?_⟩
          rw [List.filter_append, hsilent, List.append_nil, hevents, runEvents_append]
          exact congrArg _ (List.append_nil _).symm
        next => cases hperform
      | _ => cases hperform
    · have hjoined : ∀ exception, exits.exit = .threw exception →
          ∀ worker ∈ exits.run.pipeline.workers, worker = .exited := by
        intro exception hthrew
        have hstate := hrelated.state
        rw [unwound, hthrew] at hstate
        rw [hstate] at hreaches
        exact ((Run.reaches_considered hreaches).2.collected _ _ rfl).1
      obtain ⟨action', event', hstep, rfl, -, -⟩ :=
        exists_step_of_leaving hrunning hjoined hperform
      rw [← hrelated.state] at hstep
      exact hrelated.step hstep rfl

/-- Whoever left the run by an exception joined the workers first. -/
theorem joined_of_threw (run : (system config).Reaches trace exits) {exception : Exception}
    (threw : exits.exit = .threw exception) :
    ∀ worker ∈ exits.run.pipeline.workers, worker = .exited := by
  obtain ⟨trace', state, hrun, hrelated⟩ := matched run
  have hstate := hrelated.state
  rw [unwound, threw] at hstate
  rw [hstate] at hrun
  exact ((Run.reaches_considered hrun).2.collected _ _ rfl).1

end Matching

/-! ## The exception -/

section Leaving

variable {config : RuntimeConfig} {trace : List Event} {exits : RunExits}

/-- What stands when an exception has left `run`. -/
structure Left (trace : List Run.Event) (exits : RunExits) : Prop where
  /-- No thread is left that could use what `run` has destroyed. -/
  joined : ∀ worker ∈ exits.run.pipeline.workers, worker = .exited
  ended : ∀ action, exits.perform action = none
  processed : (acceptedPackets (pipelineEvents trace) : Multiset ReceivedPacket) =
    returnedPackets (pipelineEvents trace) + threwPackets (pipelineEvents trace)
  considered : (consideredPackets trace : Multiset ReceivedPacket) =
    acceptedPackets (pipelineEvents trace) +
      submittedPackets .kQueueFull (pipelineEvents trace)
  handed : (handlerInvocations trace : Multiset SensorSample) =
    (acceptedPackets (pipelineEvents trace)).filterMap sampleOf

/-- Joined workers and a finished I/O thread take no step. -/
theorem perform_eq_none_of_threw {exception : Exception} (threw : exits.exit = .threw exception)
    (joined : ∀ worker ∈ exits.run.pipeline.workers, worker = .exited) (action : Action) :
    exits.perform action = none := by
  cases action with
  | step action =>
    simp only [perform]
    split
    next hallowed =>
      have hworker : ofWorker action = true := hallowed.resolve_left (by rw [threw]; simp)
      rw [perform_eq_none exits.run joined hworker]
      rfl
    next => rfl
  | raise exception =>
    have hnot : ¬ (exits.exit = .running ∧ mayThrow exits.run.stage = true) := by
      rw [threw]
      simp
    exact if_neg hnot
  | _ => simp only [perform, threw]

/-- When the exception is out, every account is closed. -/
theorem left_of_threw (run : (system config).Reaches trace exits) {exception : Exception}
    (threw : exits.exit = .threw exception) : Left (runEvents trace) exits := by
  have hjoined := joined_of_threw run threw
  obtain ⟨trace', state, hrun, hrelated⟩ := matched run
  have hstate := hrelated.state
  rw [unwound, threw] at hstate
  subst hstate
  obtain ⟨hclosed, -, -⟩ := Run.closed hrun rfl
  obtain ⟨_, _, _, _, _, hmake, _⟩ := hrun.exists_initial
  have hpipeline : pipelineEvents trace' = pipelineEvents (runEvents trace) :=
    hrelated.filterMap_eq _ fun event silent => by
      cases event with
      | pipeline event => cases silent
      | _ => rfl
  have hconsidered : consideredPackets trace' = consideredPackets (runEvents trace) :=
    hrelated.filterMap_eq _ fun event silent => by
      cases event with
      | considered packet => cases silent
      | _ => rfl
  have hhanded : handlerInvocations trace' = handlerInvocations (runEvents trace) :=
    hrelated.filterMap_eq _ fun event silent => by
      cases event with
      | sample worker packet call => cases silent
      | _ => rfl
  have hprocessed := (WorkerPipeline.processed_of_exited (Run.reaches_pipeline hrun)
    (WorkerPipeline.make_eq_ok hmake).1 hjoined).2
  have hsubmitted := (Run.reaches_considered hrun).1.submitted
  have hsamples := Run.handlerInvocations_eq hrun hjoined hclosed.accepted
  rw [hpipeline] at hprocessed hsubmitted hsamples
  rw [hconsidered] at hsubmitted
  rw [hhanded] at hsamples
  exact ⟨hjoined, perform_eq_none_of_threw threw hjoined, hprocessed,
    hsubmitted.trans (add_zero _), hsamples⟩

/-- While an exception leaves the run, some thread can go on. -/
theorem exists_step_of_unwinding (run : (system config).Reaches trace exits) {exception : Exception}
    (unwinding : exits.exit = .unwinding exception) :
    ∃ action result, exits.perform action = some result := by
  obtain ⟨trace', state, hrun, hrelated⟩ := matched run
  have hstate := hrelated.state
  rw [unwound, unwinding] at hstate
  subst hstate
  obtain ⟨action, result, hperform, -⟩ := Run.exists_step hrun (by simp)
  have destroys {action : WorkerPipeline.Action} {outcome : Run.State × WorkerPipeline.Event}
      (h : Run.performPipeline { exits.run with stage := .stopping 0 } action = some outcome)
      (exit : Exit) : ∃ result, exits.destroy action exit = some result := by
    obtain ⟨⟨pipeline, event⟩, hpipeline, -⟩ := Option.bind_eq_some_iff.mp h
    have hsame : exits.run.pipeline.perform action = some (pipeline, event) := hpipeline
    simp only [destroy, Run.performPipeline, hsame]
    exact ⟨_, rfl⟩
  by_cases hworker : ofWorker action = true
  · rw [perform_stage exits.run hworker] at hperform
    obtain ⟨outcome, houtcome, -⟩ := Option.map_eq_some_iff.mp hperform
    refine ⟨.step action, ?_⟩
    simp only [perform, if_pos (Or.inr hworker), houtcome]
    exact ⟨_, rfl⟩
  · cases action with
    | lockLifecycle =>
      obtain ⟨_, hpipeline, -⟩ := Option.bind_eq_some_iff.mp hperform
      obtain ⟨result, hdestroys⟩ := destroys hpipeline exits.exit
      refine ⟨.lockLifecycle, result, ?_⟩
      rw [← hdestroys]
      simp only [perform, unwinding]
    | requestStop =>
      obtain ⟨_, hpipeline, -⟩ := Option.bind_eq_some_iff.mp hperform
      obtain ⟨result, hdestroys⟩ := destroys hpipeline exits.exit
      refine ⟨.requestStop, result, ?_⟩
      rw [← hdestroys]
      simp only [perform, unwinding]
    | returnStop =>
      obtain ⟨_, hpipeline, -⟩ := Option.bind_eq_some_iff.mp hperform
      obtain ⟨result, hdestroys⟩ := destroys hpipeline (.threw exception)
      refine ⟨.returnStop, result, ?_⟩
      rw [← hdestroys]
      simp only [perform, unwinding]
    | acquire | advance | observeRejection | finish => exact absurd rfl hworker
    | _ => cases hperform

/-- Each step on the way out is paid for. -/
theorem work_lt_of_leaving {next : RunExits} {event : Event}
    (run : (system config).Reaches trace exits) (leaving : exits.exit ≠ .running)
    (step : (system config).step exits event next) :
    next.exit ≠ .running ∧ Run.work next.unwound < Run.work exits.unwound := by
  obtain ⟨action, hperform⟩ := step
  obtain ⟨action', event', hstep, -, hstops, hnext⟩ :=
    exists_step_of_leaving leaving (fun _ threw => joined_of_threw run threw) hperform
  obtain ⟨trace', state, hrun, hrelated⟩ := matched run
  rw [hrelated.state] at hrun
  exact ⟨hnext, Run.work_lt (Run.length_jobs hrun) hstops (Run.transition_of_perform hstep)⟩

/-- **An exception that leaves `run` leaves no thread behind**, wherever the stop predicate or a poll
throws and under every schedule. When it is out, every worker has been joined, so that none uses the
sample processor or the monitor after their end, and every packet that was accepted has been processed
once; on its way it is never stuck, and so many steps end it. -/
theorem exception_joins (config : RuntimeConfig) (trace : List Event) (exits : RunExits)
    (run : (system config).Reaches trace exits) (exception : Exception) :
    (exits.exit = .threw exception → Left (runEvents trace) exits) ∧
    (exits.exit = .unwinding exception →
      (∃ action result, exits.perform action = some result) ∧
      ∀ labels next, (system config).Path exits labels next →
        labels.length ≤
          8 * (config.pipeline.queueCapacity + config.pipeline.workerCount) + 4) := by
  refine ⟨fun threw => left_of_threw run threw,
    fun hunwinding => ⟨exists_step_of_unwinding run hunwinding, fun labels next path => ?_⟩⟩
  obtain ⟨-, hsum⟩ := path.countP_add_le
    (fun exits => (system config).Reachable exits ∧ exits.exit ≠ .running)
    ⟨⟨trace, run⟩, by rw [hunwinding]; simp⟩ (fun exits => Run.work exits.unwound)
    (fun _ => True) (fun _ => true)
    (fun exits event next h _ step => by
      obtain ⟨⟨trace, run⟩, hleaving⟩ := h
      obtain ⟨hnext, hless⟩ := work_lt_of_leaving run hleaving step
      exact ⟨⟨⟨_, run.next step⟩, hnext⟩, hless⟩) fun _ _ => trivial
  obtain ⟨trace', state, hrun, hrelated⟩ := matched run
  have hbound := Run.work_le hrun
  rw [hrelated.state] at hbound
  have hstage : Run.stageWork exits.unwound ≤ 4 := by
    rw [unwound, hunwinding, Run.stageWork]
    dsimp only
    split <;> omega
  rw [List.countP_true] at hsum
  omega

/-- The poll throws while the only worker processes a packet; the worker is joined, and then the
exception is out. -/
theorem exception_joins_poll : ∃ trace exits,
    (system { pipeline := { workerCount := 1 } }).Reaches trace exits ∧
      (handlerInvocations (runEvents trace)).length = 1 ∧ Left (runEvents trace) exits := by
  let config : RuntimeConfig := { pipeline := { workerCount := 1 } }
  let actions : List Action :=
    [.step (.askStop false), .step (.poll [Run.cameraPacket] {}), .step (.askStop false),
      .step .observePacket, .step .trySubmit, .step .countPacket, .step (.askStop false),
      .step (.acquire 0), .raise (.systemError "epoll_wait"), .lockLifecycle,
      .step (.advance 0 false), .step (.advance 0 false), .requestStop, .step (.advance 0 false),
      .step (.advance 0 false), .step (.advance 0 false), .step (.finish 0), .step (.acquire 0),
      .returnStop]
  have hschedule : ((performAll perform { run := Run.startState config } actions).map fun result =>
      ((handlerInvocations (runEvents result.2)).length, result.1.exit)) =
      some (1, .threw (.systemError "epoll_wait")) := by
    decide +kernel
  obtain ⟨⟨exits, trace⟩, hactions, hresult⟩ := Option.map_eq_some_iff.mp hschedule
  obtain ⟨hhanded, hthrew⟩ := Prod.mk.inj hresult
  have hstart : (system config).initial { run := Run.startState config } :=
    ⟨_, ⟨_, _, _, rfl, rfl, rfl⟩, rfl⟩
  have hrun := (System.Reaches.start hstart).performAll (fun _ action _ _ h => ⟨action, h⟩) _
    hactions
  exact ⟨trace, exits, hrun, hhanded, (exception_joins config _ _ hrun _).1 hthrew⟩

end Leaving

end RunExits

end Driveflow.Runtime

import Driveflow.Runtime.Runtime

/-!
# The ways out of `run`

`run` returns its summary, or an exception of its stop predicate or of a poll passes through it. Then
the pipeline is destroyed first: its destructor stops it, and so waits for the workers, which still
use the sample processor and the monitor. These are destroyed after it.
-/

namespace Driveflow.Runtime

open Library Net Protocol

/-- How `run` is left. -/
inductive Exit where
  | running
  /-- The exception is in the destructor of the pipeline. -/
  | unwinding (exception : Exception)
  /-- The pipeline is gone, and then the sample processor and the monitor. -/
  | threw (exception : Exception)
  deriving DecidableEq, Repr

structure RunExits where
  run : Run.State
  exit : Exit := .running

namespace RunExits

inductive Action where
  /-- A step of the run. -/
  | step (action : Run.Action)
  /-- The stop predicate or the poll throws. -/
  | raise (exception : Exception)
  /-- The steps of `stop`, in the destructor. -/
  | lockLifecycle
  | requestStop
  | returnStop
  deriving DecidableEq, Repr

inductive Event where
  | run (event : Run.Event)
  | raised (exception : Exception)
  deriving DecidableEq

/-- The I/O thread is at a call of the stop predicate or of the poll. -/
def mayThrow : Run.Stage → Bool
  | .deciding | .batch _ _ | .polling => true
  | _ => false

/-- The steps of the worker threads. -/
def ofWorker : Run.Action → Bool
  | .acquire _ | .advance _ _ | .observeRejection _ | .finish _ => true
  | _ => false

/-- A step of the destructor. -/
def destroy (exits : RunExits) (action : WorkerPipeline.Action) (exit : Exit) :
    Option (RunExits × Event) := do
  let (run, event) ← Run.performPipeline exits.run action
  some ({ run, exit }, .run (.pipeline event))

/-- One step, if it is enabled. -/
def perform (exits : RunExits) : Action → Option (RunExits × Event)
  | .step action =>
    if exits.exit = .running ∨ ofWorker action = true then do
      let (run, event) ← Run.perform exits.run action
      some ({ exits with run }, .run event)
    else none
  | .raise exception =>
    if exits.exit = .running ∧ mayThrow exits.run.stage = true then
      some ({ exits with exit := .unwinding exception }, .raised exception)
    else none
  | .lockLifecycle =>
    match exits.exit with
    | .unwinding _ => exits.destroy .lockLifecycle exits.exit
    | _ => none
  | .requestStop =>
    match exits.exit with
    | .unwinding _ => exits.destroy .requestStop exits.exit
    | _ => none
  | .returnStop =>
    match exits.exit with
    | .unwinding exception => exits.destroy .returnStop (.threw exception)
    | _ => none

/-- `run` with every input, under every schedule and with every exception. -/
def system (config : RuntimeConfig) : System RunExits Event where
  initial exits := ∃ run, (Run.system config).initial run ∧ exits = { run }
  step exits event next := ∃ action, exits.perform action = some (next, event)

end RunExits

end Driveflow.Runtime

import Driveflow.Runtime.WorkerWakeups

/-!
# The constructor of the worker pipeline

`WorkerPipeline::Impl` starts its workers one after the other, and a worker runs as soon as it is
started, while the others are not there yet. A thread that cannot be started is an exception: the
constructor then stops and joins the workers it has, and throws it on. Nothing has been submitted,
so all that a worker can do is wait, and leave.
-/

namespace Driveflow.Runtime

open Library

namespace WorkerConstruction

/-- Where the constructor is. -/
inductive Stage where
  /-- At `workers_.reserve`, which may throw; the `try` block is not entered yet. -/
  | reserving
  | starting
  /-- In the `catch` block, before `request_stop`. -/
  | failed
  /-- `request_stop` has released the lock. -/
  | joining
  | threw
  | built
  deriving DecidableEq, Repr

end WorkerConstruction

open WorkerConstruction (Stage)

/-- The pipeline under construction; its workers are those that were started. -/
structure WorkerConstruction where
  wakeups : WorkerWakeups
  stage : Stage := .reserving
  deriving DecidableEq

namespace WorkerConstruction

inductive Action where
  | reserve (throws : Bool)
  /-- `workers_.emplace_back`, which starts a thread or throws. -/
  | startWorker (throws : Bool)
  /-- The loop over `worker_count` is done. -/
  | finish
  | requestStop
  | notifyAll
  /-- `join_workers` has joined every worker, and the exception goes on. -/
  | rethrow
  | sleep (worker : Nat)
  | wake (worker : Nat)
  | acquire (worker : Nat)
  deriving DecidableEq

inductive Event where
  | reserved
  | started (worker : Nat)
  | startFailed
  | built
  | stopRequested
  | threw
  | wakeups (event : WorkerWakeups.Event)
  deriving DecidableEq

/-- The started workers, with one more. -/
def startWorker (construction : WorkerConstruction) : WorkerConstruction :=
  let wakeups := construction.wakeups
  let pipeline := wakeups.pipeline
  { construction with
    wakeups := { wakeups with
      pipeline := { pipeline with workers := pipeline.workers ++ [.waiting] } } }

/-- A step of a worker or a notification. -/
def lift (construction : WorkerConstruction) (action : WorkerWakeups.Action) :
    Option (WorkerConstruction × Event) :=
  (construction.wakeups.perform action).map fun (wakeups, event) =>
    ({ construction with wakeups }, .wakeups event)

/-- One step, if it is enabled. -/
def perform (construction : WorkerConstruction) : Action → Option (WorkerConstruction × Event)
  | .reserve throws =>
    if construction.stage = .reserving then
      if throws then some ({ construction with stage := .threw }, .threw)
      else some ({ construction with stage := .starting }, .reserved)
    else none
  | .startWorker throws =>
    let pipeline := construction.wakeups.pipeline
    if construction.stage = .starting ∧ pipeline.workers.length < pipeline.config.workerCount then
      if throws then some ({ construction with stage := .failed }, .startFailed)
      else some (construction.startWorker, .started pipeline.workers.length)
    else none
  | .finish =>
    let pipeline := construction.wakeups.pipeline
    if construction.stage = .starting ∧ pipeline.workers.length = pipeline.config.workerCount then
      some ({ construction with stage := .built }, .built)
    else none
  | .requestStop =>
    if construction.stage = .failed then
      let wakeups := construction.wakeups
      some ({ wakeups := { wakeups with pipeline := wakeups.pipeline.requestStop, notifyAll := true }
              stage := .joining }, .stopRequested)
    else none
  | .notifyAll => construction.lift .notifyAll
  | .rethrow =>
    if construction.stage = .joining ∧ construction.wakeups.notifyAll = false ∧
        construction.wakeups.pipeline.workers.all (· = .exited) then
      some ({ construction with stage := .threw }, .threw)
    else none
  | .sleep worker => construction.lift (.sleep worker)
  | .wake worker => construction.lift (.wake worker)
  | .acquire worker => construction.lift (.acquire worker)

/-- The constructor under every schedule of itself and the workers it has started. -/
def system (config : WorkerPipelineConfig) : System WorkerConstruction Event where
  initial construction := ∃ pipeline, WorkerPipeline.make config true = .ok pipeline ∧
    construction = { wakeups := { pipeline := { pipeline with workers := [] } } }
  step construction event next := ∃ action, construction.perform action = some (next, event)

end WorkerConstruction

end Driveflow.Runtime

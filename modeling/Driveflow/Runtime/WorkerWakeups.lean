import Driveflow.Runtime.WorkerPipeline

/-!
# The worker pipeline with its condition variable

`worker_pipeline.cpp` again, with `work_available_`. `WorkerPipeline` steps a waiting worker when
its predicate holds; here the worker may be asleep then. `try_submit` and `request_stop` notify
after they have released the lock, so a notification is a step of its own, owed in between. A
worker's `wait` evaluates its predicate and goes to sleep in one step, since it holds the lock; it
is woken by a notification or for no reason, and then starts over.
-/

namespace Driveflow.Runtime

open Library

structure WorkerWakeups where
  pipeline : WorkerPipeline
  /-- The workers that wait on `work_available_`. -/
  asleep : Finset Nat := ∅
  /-- The accepted submissions that have yet to call `notify_one`. -/
  notifyOnes : Nat := 0
  /-- `request_stop` has yet to call `notify_all`. -/
  notifyAll : Bool := false
  deriving DecidableEq

namespace WorkerWakeups

inductive Action where
  /-- The critical section of `try_submit`. -/
  | trySubmit (packet : ReceivedPacket)
  /-- `notify_one` of an accepted submission, with the worker it wakes, if one sleeps. -/
  | notifyOne (woken : Option Nat)
  /-- A worker's predicate is false, and it goes to sleep. -/
  | sleep (worker : Nat)
  /-- A worker wakes up for no reason. -/
  | wake (worker : Nat)
  /-- A worker's predicate is true, and it goes on to the end of its first critical section. -/
  | acquire (worker : Nat)
  | finish (worker : Nat) (throws : Bool)
  | lockLifecycle
  /-- The critical section of `request_stop`. -/
  | requestStop
  | notifyAll
  | returnStop
  deriving DecidableEq

inductive Event where
  | pipeline (event : WorkerPipeline.Event)
  | notifiedOne (woken : Option Nat)
  | notifiedAll
  | slept (worker : Nat)
  | woke (worker : Nat)
  deriving DecidableEq

/-- What `notify_one` may do: it wakes a worker that sleeps, and nothing if none does. -/
def mayWake (wakeups : WorkerWakeups) : Option Nat → Bool
  | none => wakeups.asleep = ∅
  | some worker => worker ∈ wakeups.asleep

/-- A step of the pipeline. -/
def lift (wakeups : WorkerWakeups) (action : WorkerPipeline.Action) :
    Option (WorkerWakeups × Event) :=
  (wakeups.pipeline.perform action).map fun (pipeline, event) =>
    ({ wakeups with pipeline }, .pipeline event)

/-- One step, if it is enabled. -/
def perform (wakeups : WorkerWakeups) : Action → Option (WorkerWakeups × Event)
  | .trySubmit packet =>
    let (pipeline, result, _) := wakeups.pipeline.trySubmit packet
    let notifyOnes :=
      if result = .kAccepted then wakeups.notifyOnes + 1 else wakeups.notifyOnes
    some ({ wakeups with pipeline, notifyOnes }, .pipeline (.submitted packet result))
  | .notifyOne woken =>
    if 0 < wakeups.notifyOnes ∧ wakeups.mayWake woken then
      some ({ wakeups with
        asleep := wakeups.asleep \ woken.toFinset, notifyOnes := wakeups.notifyOnes - 1 },
        .notifiedOne woken)
    else none
  | .sleep worker =>
    if wakeups.pipeline.workers[worker]? = some .waiting ∧ worker ∉ wakeups.asleep ∧
        wakeups.pipeline.queue = [] ∧ wakeups.pipeline.stopRequested = false then
      some ({ wakeups with asleep := insert worker wakeups.asleep }, .slept worker)
    else none
  | .wake worker =>
    if worker ∈ wakeups.asleep then
      some ({ wakeups with asleep := wakeups.asleep.erase worker }, .woke worker)
    else none
  | .acquire worker => if worker ∈ wakeups.asleep then none else wakeups.lift (.acquire worker)
  | .finish worker throws => wakeups.lift (.finish worker throws)
  | .lockLifecycle => wakeups.lift .lockLifecycle
  | .requestStop =>
    (wakeups.lift .requestStop).map fun (wakeups, event) =>
      ({ wakeups with notifyAll := true }, event)
  | .notifyAll =>
    if wakeups.notifyAll then
      some ({ wakeups with asleep := ∅, notifyAll := false }, .notifiedAll)
    else none
  -- `stop` joins after it has notified
  | .returnStop => if wakeups.notifyAll then none else wakeups.lift .returnStop

/-- The pipeline under every schedule of its callers, its workers and its notifications. -/
def system (config : WorkerPipelineConfig) : System WorkerWakeups Event where
  initial wakeups :=
    ∃ pipeline, WorkerPipeline.make config true = .ok pipeline ∧ wakeups = { pipeline }
  step wakeups event next := ∃ action, wakeups.perform action = some (next, event)

end WorkerWakeups

end Driveflow.Runtime

import Driveflow.Library.Transition
import Driveflow.Runtime.EpollReceiver

/-!
# The worker pipeline

`worker_pipeline.hpp` and `worker_pipeline.cpp`: a bounded queue in front of a fixed set of worker
threads. Everything the threads share is read and written under `state_mutex_`, so one critical
section is one step, and a run is any interleaving of such steps. What a worker does between two of
them, the call of the packet processor, is the `processing` state of that worker: the call ends in
its own step, by returning or by throwing.

`stop` holds `lifecycle_mutex_` from beginning to end, over three steps: it takes the lock, requests
the stop, and reads the metrics once every worker is joined. `lifecycle` is where its holder stands.
-/

namespace Driveflow.Runtime

open Library

structure WorkerPipelineConfig where
  workerCount : Nat := 2
  queueCapacity : Nat := 1024
  deriving DecidableEq, Repr

inductive SubmitResult where
  | kAccepted
  | kQueueFull
  | kStopped
  deriving DecidableEq, Repr

structure WorkerPipelineMetrics where
  packetsSubmitted : BitVec 64 := 0
  packetsProcessed : BitVec 64 := 0
  packetsDroppedQueueFull : BitVec 64 := 0
  packetsRejectedStopped : BitVec 64 := 0
  handlerFailures : BitVec 64 := 0
  queueHighWatermark : Nat := 0
  deriving DecidableEq, Repr

namespace WorkerPipeline

/-- A worker thread: on its way to the queue, in a call of the processor, or returned. -/
inductive Worker where
  | waiting
  | processing (packet : ReceivedPacket)
  | exited
  deriving DecidableEq, Repr

/-- The holder of `lifecycle_mutex_`, if there is one: before `request_stop`, or joining. -/
inductive Lifecycle where
  | free
  | locked
  | joining
  deriving DecidableEq, Repr

end WorkerPipeline

open WorkerPipeline (Worker Lifecycle)

structure WorkerPipeline where
  config : WorkerPipelineConfig
  queue : List ReceivedPacket := []
  workers : List Worker := List.replicate config.workerCount .waiting
  metrics : WorkerPipelineMetrics := {}
  accepting : Bool := true
  stopRequested : Bool := false
  lifecycle : Lifecycle := .free
  deriving DecidableEq, Repr

namespace WorkerPipeline

def validateConfig (config : WorkerPipelineConfig) : Except Exception WorkerPipelineConfig :=
  if config.workerCount = 0 then
    .error (.invalidArgument "worker count must be greater than zero")
  else if config.queueCapacity = 0 then
    .error (.invalidArgument "worker queue capacity must be greater than zero")
  else .ok config

/-- The constructor; `hasProcessor` tells whether the packet processor is callable. -/
def make (config : WorkerPipelineConfig) (hasProcessor : Bool) :
    Except Exception WorkerPipeline := do
  let config ← validateConfig config
  if !hasProcessor then .error (.invalidArgument "packet processor must not be empty")
  else .ok { config }

/-- `try_submit`, and the caller's packet after it: `none` once it was moved from. -/
def trySubmit (pipeline : WorkerPipeline) (packet : ReceivedPacket) :
    WorkerPipeline × SubmitResult × Option ReceivedPacket :=
  let metrics := pipeline.metrics
  if !pipeline.accepting then
    ({ pipeline with
        metrics := { metrics with
          packetsRejectedStopped := metrics.packetsRejectedStopped + 1 } },
      .kStopped, some packet)
  else if pipeline.queue.length ≥ pipeline.config.queueCapacity then
    ({ pipeline with
        metrics := { metrics with
          packetsDroppedQueueFull := metrics.packetsDroppedQueueFull + 1 } },
      .kQueueFull, some packet)
  else
    let queue := pipeline.queue ++ [packet]
    ({ pipeline with
        queue
        metrics := { metrics with
          packetsSubmitted := metrics.packetsSubmitted + 1
          queueHighWatermark := max metrics.queueHighWatermark queue.length } },
      .kAccepted, none)

def requestStop (pipeline : WorkerPipeline) : WorkerPipeline :=
  { pipeline with accepting := false, stopRequested := true }

/-- What a step is. -/
inductive Action where
  /-- A call of `try_submit`. -/
  | trySubmit (packet : ReceivedPacket)
  /-- The first critical section of a worker's loop, past its wait. -/
  | acquire (worker : Nat)
  /-- The processor call of a worker returns, or throws. -/
  | finish (worker : Nat) (throws : Bool)
  | lockLifecycle
  | requestStop
  /-- `stop` has joined every worker; it reads the metrics and returns. -/
  | returnStop
  deriving DecidableEq, Repr

/-- What a step is seen to do. -/
inductive Event where
  | submitted (packet : ReceivedPacket) (result : SubmitResult)
  | took (worker : Nat) (packet : ReceivedPacket)
  | returned (worker : Nat) (packet : ReceivedPacket)
  | threw (worker : Nat) (packet : ReceivedPacket)
  | exited (worker : Nat)
  | stopBegun
  | stopRequested
  | stopReturned (metrics : WorkerPipelineMetrics)
  deriving DecidableEq, Repr

/-- The first critical section of `worker_loop`: enabled when the wait's predicate holds. -/
def acquire (pipeline : WorkerPipeline) (worker : Nat) : Option (WorkerPipeline × Event) :=
  match pipeline.workers[worker]? with
  | some .waiting =>
    match pipeline.queue with
    | [] =>
      if pipeline.stopRequested then
        some ({ pipeline with workers := pipeline.workers.set worker .exited }, .exited worker)
      else none
    | packet :: queue =>
      some ({ pipeline with queue, workers := pipeline.workers.set worker (.processing packet) },
        .took worker packet)
  | _ => none

/-- The second critical section of `worker_loop`, after the processor call. -/
def finish (pipeline : WorkerPipeline) (worker : Nat) (throws : Bool) :
    Option (WorkerPipeline × Event) :=
  match pipeline.workers[worker]? with
  | some (.processing packet) =>
    let metrics := pipeline.metrics
    let workers := pipeline.workers.set worker .waiting
    if throws then
      some ({ pipeline with
        workers, metrics := { metrics with handlerFailures := metrics.handlerFailures + 1 } },
        .threw worker packet)
    else
      some ({ pipeline with
        workers, metrics := { metrics with packetsProcessed := metrics.packetsProcessed + 1 } },
        .returned worker packet)
  | _ => none

/-- One step, if it is enabled. -/
def perform (pipeline : WorkerPipeline) : Action → Option (WorkerPipeline × Event)
  | .trySubmit packet =>
    let (pipeline, result, _) := pipeline.trySubmit packet
    some (pipeline, .submitted packet result)
  | .acquire worker => pipeline.acquire worker
  | .finish worker throws => pipeline.finish worker throws
  | .lockLifecycle =>
    if pipeline.lifecycle = .free then
      some ({ pipeline with lifecycle := .locked }, .stopBegun)
    else none
  | .requestStop =>
    if pipeline.lifecycle = .locked then
      some ({ pipeline.requestStop with lifecycle := .joining }, .stopRequested)
    else none
  | .returnStop =>
    if pipeline.lifecycle = .joining ∧ pipeline.workers.all (· = .exited) then
      some ({ pipeline with lifecycle := .free }, .stopReturned pipeline.metrics)
    else none

/-- The pipeline under every schedule of its callers and workers. -/
def system (config : WorkerPipelineConfig) : System WorkerPipeline Event where
  initial pipeline := make config true = .ok pipeline
  step pipeline event next := ∃ action, pipeline.perform action = some (next, event)

end WorkerPipeline

end Driveflow.Runtime

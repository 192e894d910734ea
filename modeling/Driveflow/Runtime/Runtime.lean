import Driveflow.Runtime.SensorSampleProcessor
import Driveflow.Runtime.SourceHealthMonitor
import Driveflow.Runtime.WorkerPipeline

/-!
# One run of the runtime

`runtime.hpp`, `runtime.cpp` and the configuration record of `runtime_config.hpp`. `run` is a system
of one I/O thread and the worker threads of the pipeline. The I/O thread's place in the source is
its `Stage`; a worker's place inside the packet processor that `run` hands to the pipeline is its
`Job`. Whatever takes a lock or bumps an atomic counter is a step of its own, so every schedule of
the threads is a run of the system.

What the stop predicate answers, what a poll returns, whether a sample handler throws and what the
clock says are free: they come with the action.
-/

namespace Driveflow.Runtime

open Library Net Protocol

structure RuntimeConfig where
  receiver : EpollReceiverConfig :=
    { listenEndpoints := [{ address := "0.0.0.0", port := 9000#16 }] }
  pipeline : WorkerPipelineConfig := {}
  health : SourceHealthMonitorConfig := {}
  packetCount : Option (BitVec 64) := none
  pollTimeout : BitVec 64 := 100
  deriving DecidableEq, Repr

structure RuntimeSummary where
  packetsReceived : BitVec 64
  receiverMetrics : ReceiverMetrics
  streamMetrics : SensorStreamMetrics
  pipelineMetrics : WorkerPipelineMetrics
  sampleMetrics : SensorSampleProcessorMetrics
  sourceHealth : List SourceHealthSnapshot
  deriving DecidableEq

namespace Run

def validateConfig (config : RuntimeConfig) : Except Exception RuntimeConfig :=
  if config.packetCount = some 0 then
    .error (.invalidArgument "runtime packet count must be greater than zero")
  else if config.pollTimeout.toInt ≤ 0 then
    .error (.invalidArgument "runtime poll timeout must be greater than zero")
  else if config.pipeline.workerCount = 0 then
    .error (.invalidArgument "runtime worker count must be greater than zero")
  else if config.pipeline.queueCapacity = 0 then
    .error (.invalidArgument "runtime worker queue capacity must be greater than zero")
  else if config.health.maxSources = 0 then
    .error (.invalidArgument "runtime sensor source capacity must be greater than zero")
  else if config.health.healthyAfterPackets = 0 ∨ config.health.degradedAfter.toInt ≤ 0 ∨
      config.health.recoveryAfter.toInt ≤ 0 then
    .error (.invalidArgument "runtime source health counts and durations must be positive")
  else if config.health.offlineAfter.toInt ≤ config.health.degradedAfter.toInt then
    .error (.invalidArgument "runtime offline timeout must exceed degraded timeout")
  else .ok config

/-- The constructor of `Runtime`, with the configuration it keeps. -/
def make (config : RuntimeConfig) (epollCreate1 : Option Nat)
    (listen : Ipv4Endpoint → Except Exception Ipv4Endpoint) :
    Except Exception (RuntimeConfig × EpollReceiver) := do
  let config ← validateConfig config
  let receiver ← EpollReceiver.make config.receiver epollCreate1 listen
  .ok (config, receiver)

/-- Where the I/O thread is in `run`. -/
inductive Stage where
  /-- At the condition of the `while` loop. -/
  | deciding
  | polling
  /-- At the check inside the `for` loop. -/
  | batch (packet : ReceivedPacket) (rest : List ReceivedPacket)
  | observing (packet : ReceivedPacket) (rest : List ReceivedPacket)
  | submitting (packet : ReceivedPacket) (rest : List ReceivedPacket)
  /-- The submission was refused with `kQueueFull`. -/
  | refused (packet : ReceivedPacket) (rest : List ReceivedPacket)
  /-- At `++summary.packets_received`. -/
  | counting (rest : List ReceivedPacket)
  /-- Past the loop. -/
  | leaving
  /-- Inside `pipeline.stop()`, whose own steps are those of the pipeline. -/
  | stopping (reportTimestampNs : BitVec 64)
  | collecting (reportTimestampNs : BitVec 64) (pipelineMetrics : WorkerPipelineMetrics)
  | returned
  deriving DecidableEq, Repr

/-- The `for` loop goes on with the rest of a batch, or is done with it. -/
def Stage.continue : List ReceivedPacket → Stage
  | [] => .deciding
  | packet :: rest => .batch packet rest

/-- Where a worker is in the packet processor of `run`. -/
inductive Job where
  | processing (call : SensorSampleProcessor.Call)
  /-- The rejected payload was reported to the monitor. -/
  | reported
  deriving DecidableEq, Repr

structure State where
  config : RuntimeConfig
  stage : Stage := .deciding
  packetsReceived : BitVec 64 := 0
  receiverMetrics : ReceiverMetrics := {}
  healthMonitor : SourceHealthMonitor
  sampleMetrics : SensorSampleProcessorMetrics := {}
  pipeline : WorkerPipeline
  /-- One for each worker; it means something while that worker is processing. -/
  jobs : List Job := List.replicate config.pipeline.workerCount (.processing .entered)

/-- `run` up to its loop; the flags tell whether the two functions it is given are callable. -/
def start (config : RuntimeConfig) (receiver : EpollReceiver)
    (hasStopPredicate hasSampleHandler : Bool) : Except Exception State :=
  if !hasStopPredicate then
    .error (.invalidArgument "runtime stop predicate must not be empty")
  else if !hasSampleHandler then
    .error (.invalidArgument "runtime sample handler must not be empty")
  else do
    let healthMonitor ← SourceHealthMonitor.make config.health
    let sampleMetrics ← SensorSampleProcessor.make hasSampleHandler
    let pipeline ← WorkerPipeline.make config.pipeline true
    .ok { config, healthMonitor, sampleMetrics, pipeline, receiverMetrics := receiver.metrics }

/-- `limit_reached`. -/
def limitReached (state : State) : Bool :=
  match state.config.packetCount with
  | none => false
  | some packetCount => state.packetsReceived ≥ packetCount

/-- A step of the I/O thread or of a worker. -/
inductive Action where
  /-- The stop predicate is called and answers. -/
  | askStop (answer : Bool)
  | poll (packets : List ReceivedPacket) (metrics : ReceiverMetrics)
  | observePacket
  | trySubmit
  | observeQueueDrop
  | countPacket
  | readClock (timestamp : BitVec 64)
  /-- `stop` takes the lifecycle lock, requests the stop, or returns. -/
  | lockLifecycle
  | requestStop
  | returnStop
  | summarise
  | acquire (worker : Nat)
  | advance (worker : Nat) (throws : Bool)
  | observeRejection (worker : Nat)
  | finish (worker : Nat)
  deriving DecidableEq, Repr

/-- What a step is seen to do. -/
inductive Event where
  | stopAsked (answer : Bool)
  | polled (packets : List ReceivedPacket)
  /-- A packet was considered: observed by the monitor. -/
  | considered (packet : ReceivedPacket)
  | pipeline (event : WorkerPipeline.Event)
  | queueDropObserved (packet : ReceivedPacket)
  | counted
  | clockRead (timestamp : BitVec 64)
  | sample (worker : Nat) (packet : ReceivedPacket) (event : SensorSampleProcessor.CallEvent)
  | rejectionObserved (worker : Nat) (packet : ReceivedPacket)
  | returned (summary : RuntimeSummary)
  deriving DecidableEq

/-- The packet a worker is processing. -/
def processed? (state : State) (worker : Nat) : Option ReceivedPacket :=
  match state.pipeline.workers[worker]? with
  | some (.processing packet) => some packet
  | _ => none

/-- A step of the pipeline inside this run. -/
def performPipeline (state : State) (action : WorkerPipeline.Action) :
    Option (State × WorkerPipeline.Event) := do
  let (pipeline, event) ← state.pipeline.perform action
  some ({ state with pipeline }, event)

/-- A worker that takes a packet enters the packet processor. -/
def acquire (state : State) (worker : Nat) : Option (State × Event) := do
  let (state, event) ← performPipeline state (.acquire worker)
  some ({ state with jobs := state.jobs.set worker (.processing .entered) }, .pipeline event)

/-- One step of the packet processor's call of `process`. -/
def advance (state : State) (worker : Nat) (throws : Bool) : Option (State × Event) := do
  let packet ← processed? state worker
  match state.jobs[worker]? with
  | some (.processing call) =>
    let (sampleMetrics, call, event) ←
      SensorSampleProcessor.advance state.sampleMetrics packet throws call
    some ({ state with sampleMetrics, jobs := state.jobs.set worker (.processing call) },
      .sample worker packet event)
  | _ => none

/-- The packet processor reports an error of `process` to the monitor. -/
def observeRejection (state : State) (worker : Nat) : Option (State × Event) := do
  let packet ← processed? state worker
  match state.jobs[worker]? with
  | some (.processing (.returned error)) =>
    if error ≠ .kNone then
      some ({ state with
          healthMonitor := state.healthMonitor.observeIssue packet .kPayloadRejected
          jobs := state.jobs.set worker .reported },
        .rejectionObserved worker packet)
    else none
  | _ => none

/-- The packet processor of a worker returns or throws to the pipeline. -/
def finish (state : State) (worker : Nat) : Option (State × Event) := do
  let throws ← match state.jobs[worker]? with
    | some (.processing (.returned .kNone)) => some false
    | some .reported => some false
    | some (.processing .threw) => some true
    | _ => none
  let (state, event) ← performPipeline state (.finish worker throws)
  some (state, .pipeline event)

/-- The summary, once `stop` has returned; every worker has been joined by then. -/
def summarise (state : State) (reportTimestampNs : BitVec 64)
    (pipelineMetrics : WorkerPipelineMetrics) : RuntimeSummary :=
  let healthReport := state.healthMonitor.report reportTimestampNs
  { packetsReceived := state.packetsReceived
    receiverMetrics := state.receiverMetrics
    streamMetrics := healthReport.streamMetrics
    pipelineMetrics
    sampleMetrics := state.sampleMetrics
    sourceHealth := healthReport.sources }

/-- One step, if it is enabled. -/
def perform (state : State) : Action → Option (State × Event)
  | .askStop answer =>
    match state.stage with
    | .deciding =>
      let stage := if answer || limitReached state then .leaving else .polling
      some ({ state with stage }, .stopAsked answer)
    | .batch packet rest =>
      let stage := if answer || limitReached state then .deciding else .observing packet rest
      some ({ state with stage }, .stopAsked answer)
    | _ => none
  | .poll packets receiverMetrics =>
    match state.stage with
    | .polling =>
      some ({ state with stage := Stage.continue packets, receiverMetrics }, .polled packets)
    | _ => none
  | .observePacket =>
    match state.stage with
    | .observing packet rest =>
      let (healthMonitor, _) := state.healthMonitor.observePacket packet
      some ({ state with stage := .submitting packet rest, healthMonitor }, .considered packet)
    | _ => none
  | .trySubmit =>
    match state.stage with
    | .submitting packet rest =>
      let (pipeline, submitResult, remaining) := state.pipeline.trySubmit packet
      -- the packet that `observe_issue` gets is what the submission left of it
      let stage :=
        match submitResult, remaining with
        | .kQueueFull, some packet => .refused packet rest
        | _, _ => .counting rest
      some ({ state with stage, pipeline }, .pipeline (.submitted packet submitResult))
    | _ => none
  | .observeQueueDrop =>
    match state.stage with
    | .refused packet rest =>
      let healthMonitor := state.healthMonitor.observeIssue packet .kQueueDropped
      some ({ state with stage := .counting rest, healthMonitor }, .queueDropObserved packet)
    | _ => none
  | .countPacket =>
    match state.stage with
    | .counting rest =>
      some ({ state with
          stage := Stage.continue rest, packetsReceived := state.packetsReceived + 1 }, .counted)
    | _ => none
  | .readClock timestamp =>
    match state.stage with
    | .leaving => some ({ state with stage := .stopping timestamp }, .clockRead timestamp)
    | _ => none
  | .lockLifecycle =>
    match state.stage with
    | .stopping _ => do
      let (state, event) ← performPipeline state .lockLifecycle
      some (state, .pipeline event)
    | _ => none
  | .requestStop =>
    match state.stage with
    | .stopping _ => do
      let (state, event) ← performPipeline state .requestStop
      some (state, .pipeline event)
    | _ => none
  | .returnStop =>
    match state.stage with
    | .stopping reportTimestampNs => do
      let (state, event) ← performPipeline state .returnStop
      some ({ state with stage := .collecting reportTimestampNs state.pipeline.metrics },
        .pipeline event)
    | _ => none
  | .summarise =>
    match state.stage with
    | .collecting reportTimestampNs pipelineMetrics =>
      some ({ state with stage := .returned },
        .returned (summarise state reportTimestampNs pipelineMetrics))
    | _ => none
  | .acquire worker => acquire state worker
  | .advance worker throws => advance state worker throws
  | .observeRejection worker => observeRejection state worker
  | .finish worker => finish state worker

/-- `run` with every input and under every schedule. -/
def system (config : RuntimeConfig) : System State Event where
  initial state := ∃ healthMonitor pipeline receiverMetrics,
    SourceHealthMonitor.make config.health = .ok healthMonitor ∧
    WorkerPipeline.make config.pipeline true = .ok pipeline ∧
    state = { config, healthMonitor, pipeline, receiverMetrics }
  step state event next := ∃ action, perform state action = some (next, event)

end Run

end Driveflow.Runtime

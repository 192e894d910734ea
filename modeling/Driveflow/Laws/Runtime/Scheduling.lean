import Driveflow.Laws.Runtime.Ledger
import Driveflow.Laws.Runtime.PacketSide

/-!
# Schedules do not matter to what packets decide

Two runs of the runtime that consider the same packets may differ in their workers, their queue,
their handler and their schedule. Their summaries agree in everything that packets decide: each
run's monitor has seen the considered packets in order, and the rest of its calls are issues.
-/

namespace Driveflow.Runtime

open Library Net Protocol

namespace Run

/-- The health report in a summary is that of a monitor that saw the run's calls. -/
theorem returned_report {config : RuntimeConfig} {monitor : SourceHealthMonitor}
    (made : SourceHealthMonitor.make config.health = .ok monitor) {trace : List Event}
    {summary : RuntimeSummary} {state : State}
    (run : (system config).Reaches (trace ++ [.returned summary]) state) :
    ∃ timestamp,
      let report := (monitor.runEvents (healthEvents trace)).1.report timestamp
      summary.streamMetrics = report.streamMetrics ∧ summary.sourceHealth = report.sources := by
  obtain ⟨earlier, hearlier, action, hperform⟩ := run.last
  cases transition_of_perform hperform with
  | returned timestamp metrics stands =>
    rw [← healthMonitor_eq made hearlier]
    exact ⟨timestamp, rfl, rfl⟩

/-- **Sequence and latency results do not depend on worker scheduling.** Two runs that consider the
same packets, with the same health configuration, return the same stream metrics and report the same
sources with the same packet fields; a snapshot's other fields are its status, its inactivity at the
time of the report, and its two counters of issues. -/
theorem schedule_independent (config config' : RuntimeConfig)
    (health : config.health = config'.health) (trace trace' : List Event)
    (summary summary' : RuntimeSummary) (state state' : State)
    (run : (system config).Reaches (trace ++ [.returned summary]) state)
    (run' : (system config').Reaches (trace' ++ [.returned summary']) state')
    (considered : consideredPackets trace = consideredPackets trace') :
    summary.streamMetrics = summary'.streamMetrics ∧
      summary.sourceHealth.map SourceHealthSnapshot.source =
        summary'.sourceHealth.map SourceHealthSnapshot.source ∧
      summary.sourceHealth.map SourceHealthSnapshot.packetFields =
        summary'.sourceHealth.map SourceHealthSnapshot.packetFields := by
  obtain ⟨_, monitor, _, _, hmade, _⟩ := run.exists_initial
  obtain ⟨now, hmetrics, hsources⟩ := returned_report hmade run
  obtain ⟨now', hmetrics', hsources'⟩ := returned_report (health ▸ hmade) run'
  rw [← observedPackets_healthEvents, ← observedPackets_healthEvents trace'] at considered
  obtain ⟨hsame, hfields⟩ := report_packetFields hmade considered now now'
  rw [hmetrics, hmetrics', hsources, hsources']
  refine ⟨hsame, ?_, hfields⟩
  have hview := congrArg (List.map SourceHealthSnapshot.source) hfields
  rwa [List.map_map, List.map_map] at hview

/-- A refused packet and a throwing handler on one side, two workers and a larger queue on the
other. -/
theorem schedule_independent_drop :
    ∃ trace trace' summary summary' state state',
      (system { pipeline := { workerCount := 1, queueCapacity := 1 } }).Reaches
        (trace ++ [.returned summary]) state ∧
      (system { pipeline := { workerCount := 2, queueCapacity := 2 } }).Reaches
        (trace' ++ [.returned summary']) state' ∧
      consideredPackets trace = [cameraPacket, cameraPacket] ∧
      summary.streamMetrics = summary'.streamMetrics ∧
      summary.sourceHealth.map SourceHealthSnapshot.packetFields =
        summary'.sourceHealth.map SourceHealthSnapshot.packetFields := by
  let config : RuntimeConfig := { pipeline := { workerCount := 1, queueCapacity := 1 } }
  let config' : RuntimeConfig := { pipeline := { workerCount := 2, queueCapacity := 2 } }
  let receiving : List Action :=
    [.askStop false, .poll [cameraPacket, cameraPacket] {}, .askStop false, .observePacket,
      .trySubmit, .countPacket, .askStop false, .observePacket, .trySubmit]
  let stopping : List Action := [.countPacket, .askStop true, .readClock 5, .lockLifecycle,
    .requestStop]
  let handling (worker : Nat) (throws : Bool) : List Action :=
    [.advance worker false, .advance worker false, .advance worker false, .advance worker false,
      .advance worker throws, .finish worker]
  have hschedule : ((performAll perform (startState config)
      (receiving ++ [.observeQueueDrop] ++ stopping ++ [.acquire 0] ++ handling 0 true ++
        [.acquire 0, .returnStop])).map fun result =>
      (consideredPackets result.2, result.1.stage)) =
      some ([cameraPacket, cameraPacket],
        .collecting 5
          { packetsSubmitted := 1, packetsDroppedQueueFull := 1, handlerFailures := 1,
            queueHighWatermark := 1 }) := by
    decide +kernel
  have hschedule' : ((performAll perform (startState config')
      (receiving ++ [.acquire 1, .acquire 0] ++ handling 0 false ++ stopping ++
        handling 1 false ++ [.acquire 1, .acquire 0, .returnStop])).map fun result =>
      (consideredPackets result.2, result.1.stage)) =
      some ([cameraPacket, cameraPacket],
        .collecting 5
          { packetsSubmitted := 2, packetsProcessed := 2, queueHighWatermark := 2 }) := by
    decide +kernel
  obtain ⟨trace, summary, state, hrun, hpackets⟩ :=
    returns_of_performAll ⟨_, _, _, rfl, rfl, rfl⟩ hschedule
  obtain ⟨trace', summary', state', hrun', hpackets'⟩ :=
    returns_of_performAll ⟨_, _, _, rfl, rfl, rfl⟩ hschedule'
  obtain ⟨hmetrics, _, hfields⟩ := schedule_independent config config' rfl trace trace' summary
    summary' state state' hrun hrun' (hpackets.trans hpackets'.symm)
  exact ⟨trace, trace', summary, summary', state, state', hrun, hrun', hpackets, hmetrics,
    hfields⟩

end Run

end Driveflow.Runtime

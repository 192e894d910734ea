import Driveflow.Runtime.Runtime
import Driveflow.Runtime.SocketQueues

/-!
# The runtime on its sockets

`Runtime::run` takes what its polls return as it comes. Here the polls are those of its own
receiver, on the queues of its sockets: a poll finds some listeners ready, drains them, and what it
returns is what the I/O thread goes on with. Everything else is a step of the run.
-/

namespace Driveflow.Runtime

open Library Net Protocol

open EpollReceiver (Service PollCall pollQueues)

/-- A run, with the receiver and the sockets it polls. -/
structure Node where
  run : Run.State
  service : Service

namespace Node

inductive Action where
  /-- A step of the run other than a poll. -/
  | step (action : Run.Action)
  /-- `receiver_.poll`, with the listeners that `epoll_wait` reports. -/
  | poll (ready : List Nat)
  deriving DecidableEq, Repr

/-- `epoll_wait` reports a registered descriptor, and each of them once. -/
def reports (node : Node) (ready : List Nat) : Bool :=
  decide ready.Nodup && ready.all (· < node.service.receiver.listeners.length)

/-- A poll that returns; one that throws is the end of `run`, and none of these steps. -/
def poll (calls : SocketCalls) (moments : Nat → Moment) (node : Node) (ready : List Nat) :
    Option (Node × Run.Event) :=
  let call : PollCall := { timeout := node.run.config.pollTimeout, ready }
  match pollQueues calls moments node.service.receiver node.service.queues call with
  | .error _ => none
  | .ok (receiver, queues, packets) => do
    let (run, event) ← Run.perform node.run (.poll packets receiver.metrics)
    let service := { receiver, queues, returned := node.service.returned ++ packets }
    some ({ run, service }, event)

/-- One step, if it is enabled. -/
def perform (calls : SocketCalls) (moments : Nat → Moment) (node : Node) :
    Action → Option (Node × Run.Event)
  | .step (.poll _ _) => none
  | .step action => do
    let (run, event) ← Run.perform node.run action
    some ({ node with run }, event)
  | .poll ready => if node.reports ready then node.poll calls moments ready else none

/-- `run` on the sockets of its receiver, with everything that may arrive at them and under every
schedule. -/
def system (calls : SocketCalls) (moments : Nat → Moment) (config : RuntimeConfig)
    (receiver : EpollReceiver) : System Node Run.Event where
  initial node := ∃ run, Run.start config receiver true true = .ok run ∧
    node = { run, service := { receiver } }
  step node event next := ∃ action, node.perform calls moments action = some (next, event)

end Node

end Driveflow.Runtime

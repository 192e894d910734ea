import Driveflow.Net.UdpSocket
import Driveflow.Protocol.Packet

/-!
# The epoll receiver

`epoll_receiver.hpp` and `epoll_receiver.cpp`: several non-blocking sockets behind one `epoll`
instance. A poll drains each ready socket up to a limit and hands on the packets it could decode.

What the operating system answers is a parameter: whether the descriptors could be made, which
sockets are ready, and what the receive calls on each of them find, with the clock after each.
-/

namespace Driveflow.Runtime

open Net Protocol

/-- `std::numeric_limits<int>::max()`. -/
def kMaxInt : Nat := 2147483647

structure EpollReceiverConfig where
  listenEndpoints : List Ipv4Endpoint := []
  maxDatagramsPerListenerPerPoll : Nat := 64
  deriving DecidableEq, Repr

structure ReceiverMetrics where
  epollWakeups : BitVec 64 := 0
  datagramsReceived : BitVec 64 := 0
  packetsAccepted : BitVec 64 := 0
  packetsRejected : BitVec 64 := 0
  deriving DecidableEq, Repr

structure ReceivedPacket where
  packet : Packet := {}
  source : Ipv4Endpoint := {}
  listener : Ipv4Endpoint := {}
  receiveTimestampNs : BitVec 64 := 0
  deriving DecidableEq, Repr

structure EpollReceiver where
  maxDatagramsPerListenerPerPoll : Nat
  /-- The local endpoint of each listener. -/
  listeners : List Ipv4Endpoint
  metrics : ReceiverMetrics := {}
  deriving DecidableEq, Repr

namespace EpollReceiver

/-- `create_epoll`; `epollCreate1` is the descriptor, if there is one. -/
def createEpoll (config : EpollReceiverConfig) (epollCreate1 : Option Nat) :
    Except Exception Nat :=
  if config.listenEndpoints = [] then
    .error (.invalidArgument "epoll receiver requires at least one listen endpoint")
  else if config.maxDatagramsPerListenerPerPoll = 0 then
    .error (.invalidArgument "max datagrams per listener per poll must be greater than zero")
  else if config.listenEndpoints.length > kMaxInt then
    .error (.invalidArgument "too many epoll listen endpoints")
  else
    match epollCreate1 with
    | none => .error (.systemError "epoll_create1")
    | some fileDescriptor => .ok fileDescriptor

/-- The constructor; `listen` binds a socket to an endpoint, registers it, and tells the endpoint it
has. -/
def make (config : EpollReceiverConfig) (epollCreate1 : Option Nat)
    (listen : Ipv4Endpoint → Except Exception Ipv4Endpoint) : Except Exception EpollReceiver := do
  let _ ← createEpoll config epollCreate1
  let listeners ← config.listenEndpoints.mapM listen
  .ok { maxDatagramsPerListenerPerPoll := config.maxDatagramsPerListenerPerPoll, listeners }

/-- A ready descriptor, and what its socket's receive calls find one after the other. -/
structure ReadyEvent where
  /-- `EPOLLIN` is set. -/
  readable : Bool := true
  listenerIndex : Nat
  incoming : List (Incoming × BitVec 64) := []
  deriving DecidableEq, Repr

/-- What `epoll_wait` returns. -/
inductive EpollWait where
  | interrupted
  | failed
  | ready (events : List ReadyEvent)
  deriving DecidableEq, Repr

/-- The packets of a poll so far, and the metrics. -/
abbrev Drained := ReceiverMetrics × List ReceivedPacket

/-- One received datagram. -/
def receiveOne (listener : Ipv4Endpoint) (drained : Drained) (datagram : ReceivedDatagram)
    (receiveTimestampNs : BitVec 64) : Drained :=
  let (metrics, packets) := drained
  let metrics := { metrics with datagramsReceived := metrics.datagramsReceived + 1 }
  -- a decoder that reads outside the datagram has no packet either; it never does
  match (decodePacket datagram.bytes).bind DecodeResult.packet with
  | none => ({ metrics with packetsRejected := metrics.packetsRejected + 1 }, packets)
  | some packet =>
    ({ metrics with packetsAccepted := metrics.packetsAccepted + 1 },
      packets ++ [{ packet, source := datagram.source, listener, receiveTimestampNs }])

/-- The inner loop of `poll`, over at most so many datagrams. -/
def drain (calls : SocketCalls) (listener : Ipv4Endpoint) :
    Nat → List (Incoming × BitVec 64) → Drained → Except Exception Drained
  | 0, _, drained => .ok drained
  | _ + 1, [], drained => .ok drained
  | limit + 1, (incoming, receiveTimestampNs) :: rest, drained =>
    match tryReceive calls incoming with
    | .error exception => .error exception
    | .ok none => .ok drained
    | .ok (some datagram) =>
      drain calls listener limit rest (receiveOne listener drained datagram receiveTimestampNs)

/-- The outer loop of `poll`. -/
def drainAll (calls : SocketCalls) (receiver : EpollReceiver) :
    List ReadyEvent → Drained → Except Exception Drained
  | [], drained => .ok drained
  | event :: events, drained =>
    if !event.readable then drainAll calls receiver events drained
    else
      match receiver.listeners[event.listenerIndex]? with
      | none => .error (.runtimeError "epoll returned an unknown listener")
      | some listener => do
        let drained ←
          drain calls listener receiver.maxDatagramsPerListenerPerPoll event.incoming drained
        drainAll calls receiver events drained

/-- `poll`; `epollWait` gets the timeout as an `int`. -/
def poll (receiver : EpollReceiver) (timeout : BitVec 64) (calls : SocketCalls)
    (epollWait : BitVec 32 → EpollWait) : Except Exception (EpollReceiver × List ReceivedPacket) :=
  if timeout.toInt < 0 ∨ timeout.toInt > kMaxInt then
    .error (.invalidArgument "epoll timeout must fit a non-negative int")
  else
    match epollWait (timeout.setWidth 32) with
    | .interrupted => .ok (receiver, [])
    | .failed => .error (.systemError "epoll_wait")
    | .ready events => do
      let metrics :=
        if events.length > 0 then
          { receiver.metrics with epollWakeups := receiver.metrics.epollWakeups + 1 }
        else receiver.metrics
      let (metrics, packets) ← drainAll calls receiver events (metrics, [])
      .ok ({ receiver with metrics }, packets)

end EpollReceiver

end Driveflow.Runtime

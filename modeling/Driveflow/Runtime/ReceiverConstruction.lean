import Driveflow.Runtime.DescriptorOwners
import Driveflow.Runtime.EpollReceiver

/-!
# The constructor of the receiver

`EpollReceiver::Impl::Impl` with the descriptors it opens, and what its exceptions destroy. Where
the members and the locals are stored: the `epoll` descriptor at `base`, the local `socket` of the
loop behind it, then the `Listener` that `push_back` gets, and from there the elements of
`listeners`, for which the room was reserved.
-/

namespace Driveflow.Runtime

open Library Net

/-- What the system answers while one listener is made. -/
structure ListenAnswers where
  socket : Bool := true
  bind : Sockaddr → Option Sockaddr := some
  getFlags : Bool := true
  setFlags : Bool := true
  getsockname : Bool := true
  epollCtl : Bool := true

/-- What it answers altogether; a new descriptor gets a number that is not in use. -/
structure Kernel where
  unused : Finset Nat → Nat
  unused_notMem : ∀ used, unused used ∉ used
  epollCreate1 : Bool := true
  listens : Nat → ListenAnswers := fun _ => {}

/-- The descriptor that a call returns, if it succeeds. -/
def Kernel.descriptor (kernel : Kernel) (process : Process) (succeeds : Bool) : Option Nat :=
  if succeeds then some (kernel.unused process.descriptors.keys) else none

/-- `UdpSocket::local_endpoint`. -/
def localEndpoint (calls : SocketCalls) (this : Nat) (getsockname : Bool) (process : Process) :
    Except Exception Ipv4Endpoint :=
  match process.descriptors.lookup (process.fileDescriptor this).toNat with
  | some (.socket (some address) _) =>
    if getsockname then fromSockaddr calls address else .error (.systemError "getsockname")
  | _ => .error (.systemError "getsockname")

/-- `epoll_ctl` with `EPOLL_CTL_ADD`, on descriptors that are open. -/
def epollCtlAdd (epoll fd : Nat) (data : BitVec 64) (succeeds : Bool) (process : Process) :
    Option Process :=
  if succeeds = true ∧ process.descriptors.lookup epoll = some .epoll ∧
      fd ∈ process.descriptors then
    some { process with
      registrations := process.registrations ++ [{ epoll, fileDescriptor := fd, data }] }
  else none

namespace EpollReceiver

/-- One round of the loop, when `listeners` has so many elements. -/
def addListener (calls : SocketCalls) (kernel : Kernel) (base size : Nat)
    (requestedEndpoint : Ipv4Endpoint) (process : Process) :
    Except Exception Ipv4Endpoint × Process :=
  let answers := kernel.listens size
  let socket := base + 1
  match UdpSocket.bindTo calls socket requestedEndpoint (kernel.descriptor process answers.socket)
      answers.bind process with
  | (.error exception, process) => (.error exception, process)
  | (.ok _, process) =>
    -- from here on an exception destroys the socket
    match UdpSocket.setNonBlocking socket answers.getFlags answers.setFlags process with
    | (.error exception, process) => (.error exception, UdpSocket.destroy socket process)
    | (.ok _, process) =>
      match localEndpoint calls socket answers.getsockname process with
      | .error exception => (.error exception, UdpSocket.destroy socket process)
      | .ok actualEndpoint =>
        match epollCtlAdd (process.fileDescriptor base).toNat (process.fileDescriptor socket).toNat
            (BitVec.ofNat 64 size) answers.epollCtl process with
        | none =>
          (.error (.systemError "epoll_ctl(EPOLL_CTL_ADD)"), UdpSocket.destroy socket process)
        | some process =>
          let listener := base + 2
          let process := UdpSocket.moveConstruct listener socket process
          let process := UdpSocket.moveConstruct (base + 3 + size) listener process
          let process := UdpSocket.destroy listener process
          (.ok actualEndpoint, UdpSocket.destroy socket process)

/-- The loop; `localEndpoints` has as many elements as `listeners`. -/
def addListeners (calls : SocketCalls) (kernel : Kernel) (base : Nat) :
    List Ipv4Endpoint → List Ipv4Endpoint → Process →
      Option Exception × List Ipv4Endpoint × Process
  | [], localEndpoints, process => (none, localEndpoints, process)
  | requestedEndpoint :: requested, localEndpoints, process =>
    match addListener calls kernel base localEndpoints.length requestedEndpoint process with
    | (.error exception, process) => (some exception, localEndpoints, process)
    | (.ok actualEndpoint, process) =>
      addListeners calls kernel base requested (localEndpoints ++ [actualEndpoint]) process

/-- The members in the reverse order of their declaration: the elements of `listeners`, and then the
`epoll` descriptor. -/
def destroyMembers (base size : Nat) (process : Process) : Process :=
  FileDescriptor.destroy base
    ((List.range size).foldl (fun process index => UdpSocket.destroy (base + 3 + index) process)
      process)

/-- `Impl::Impl`. -/
def construct (calls : SocketCalls) (kernel : Kernel) (config : EpollReceiverConfig) (base : Nat)
    (process : Process) : Except Exception EpollReceiver × Process :=
  match createEpoll config (kernel.descriptor process kernel.epollCreate1) with
  | .error exception => (.error exception, process)
  | .ok fd =>
    let process := (process.openAs fd .epoll).store base (some fd)
    match addListeners calls kernel base config.listenEndpoints [] process with
    | (some exception, localEndpoints, process) =>
      (.error exception, destroyMembers base localEndpoints.length process)
    | (none, localEndpoints, process) =>
      (.ok {
          maxDatagramsPerListenerPerPoll := config.maxDatagramsPerListenerPerPoll
          listeners := localEndpoints },
        process)

end EpollReceiver

end Driveflow.Runtime

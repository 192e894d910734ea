import Driveflow.Net.Descriptors

/-!
# Everything that owns a descriptor

The class `FileDescriptor` of `epoll_receiver.cpp`, and the system of all objects that own a
descriptor: `UdpSocket`s and `FileDescriptor`s are made, moved, assigned and destroyed in any order,
and in between the rest of the process opens and closes descriptors of its own.
-/

namespace Driveflow.Runtime

open Library Net

namespace FileDescriptor

/-- The private `close`. -/
def close (this : Nat) (process : Process) : Process :=
  if process.fileDescriptor this ≥ 0 then
    (process.close (process.fileDescriptor this).toNat).store this (some (-1))
  else process

/-- The move constructor. -/
def moveConstruct (this other : Nat) (process : Process) : Process :=
  UdpSocket.exchange this other process

/-- `operator=`. -/
def moveAssign (this other : Nat) (process : Process) : Process :=
  if this ≠ other then UdpSocket.exchange this other (close this process) else process

/-- The destructor. -/
def destroy (this : Nat) (process : Process) : Process := (close this process).store this none

end FileDescriptor

namespace Owners

/-- What the rest of the process does. -/
inductive Other where
  | opens (fd : Nat)
  | closes (fd : Nat)
  deriving DecidableEq, Repr

inductive Action where
  | openSocket (this : Nat) (socket : Option Nat)
  | bindTo (this : Nat) (localEndpoint : Ipv4Endpoint) (socket : Option Nat)
      (bind : Option Sockaddr)
  | setNonBlocking (this : Nat) (getFlags setFlags : Bool)
  | moveSocket (this other : Nat)
  | assignSocket (this other : Nat)
  | destroySocket (this : Nat)
  /-- `FileDescriptor(::epoll_create1(..))`, where the call succeeds. -/
  | createEpoll (this : Nat) (epollCreate1 : Nat)
  | moveDescriptor (this other : Nat)
  | assignDescriptor (this other : Nat)
  | destroyDescriptor (this : Nat)
  | other (action : Other)
  deriving DecidableEq, Repr

/-- One step, if it is enabled: an object is made where none is, only an object is used, and a call
returns a descriptor that nobody has. -/
def perform (calls : SocketCalls) (process : Process) : Action → Option Process
  | .openSocket this socket =>
    if process.objects this = none ∧ ∀ fd ∈ socket, fd ∉ process.descriptors then
      some (UdpSocket.openSocket this socket process).2
    else none
  | .bindTo this localEndpoint socket bind =>
    if process.objects this = none ∧ ∀ fd ∈ socket, fd ∉ process.descriptors then
      some (UdpSocket.bindTo calls this localEndpoint socket (fun _ => bind) process).2
    else none
  | .setNonBlocking this getFlags setFlags =>
    if process.objects this ≠ none then
      some (UdpSocket.setNonBlocking this getFlags setFlags process).2
    else none
  | .moveSocket this other =>
    if process.objects this = none ∧ process.objects other ≠ none then
      some (UdpSocket.moveConstruct this other process)
    else none
  | .assignSocket this other =>
    if process.objects this ≠ none ∧ process.objects other ≠ none then
      some (UdpSocket.moveAssign this other process)
    else none
  | .destroySocket this =>
    if process.objects this ≠ none then some (UdpSocket.destroy this process) else none
  | .createEpoll this epollCreate1 =>
    if process.objects this = none ∧ epollCreate1 ∉ process.descriptors then
      some ((process.openAs epollCreate1 .epoll).store this (some epollCreate1))
    else none
  | .moveDescriptor this other =>
    if process.objects this = none ∧ process.objects other ≠ none then
      some (FileDescriptor.moveConstruct this other process)
    else none
  | .assignDescriptor this other =>
    if process.objects this ≠ none ∧ process.objects other ≠ none then
      some (FileDescriptor.moveAssign this other process)
    else none
  | .destroyDescriptor this =>
    if process.objects this ≠ none then some (FileDescriptor.destroy this process) else none
  | .other (.opens fd) =>
    if fd ∉ process.descriptors then
      some { process with descriptors := process.descriptors.insert fd .other }
    else none
  | .other (.closes fd) =>
    if process.descriptors.lookup fd = some .other then
      some { process with descriptors := process.descriptors.erase fd }
    else none

/-- All objects, over all schedules, in a process that began with some descriptors open that are not
theirs. -/
def system (calls : SocketCalls) (inherited : Finmap fun _ : Nat => Description) :
    System Process Action where
  initial process := process = { descriptors := inherited } ∧
    ∀ fd ∈ inherited, inherited.lookup fd = some .other
  step process action next := perform calls process action = some next

end Owners

end Driveflow.Runtime

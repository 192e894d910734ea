import Driveflow.Library.Transition
import Driveflow.Net.UdpSocket
import Mathlib.Data.Finmap

/-!
# Descriptors and the sockets that own them

The life of a `UdpSocket`: what its constructors, its assignment and its destructor do to the
descriptors of the process. An object is the number that is stored at its address; one that was
moved from holds `-1`.

Which descriptor a call returns is the system's choice, and so is whether a call fails; a call on a
descriptor that is not open fails in any case.
-/

namespace Driveflow.Net

open Library

/-- What a descriptor of the process refers to. -/
inductive Description where
  | socket (address : Option Sockaddr) (nonBlocking : Bool)
  | epoll
  /-- Whatever else the process has open. -/
  | other
  deriving DecidableEq, Repr

/-- A descriptor that an `epoll` instance watches, and the data it reports it with. -/
structure Registration where
  epoll : Nat
  fileDescriptor : Nat
  data : BitVec 64
  deriving DecidableEq, Repr

structure Process where
  descriptors : Finmap fun _ : Nat => Description
  registrations : List Registration := []
  /-- The number in the object at each address; `none` where there is no object. -/
  objects : Nat → Option Int := fun _ => none
  /-- What the objects' own calls opened and closed. -/
  opened : List Nat := []
  closed : List Nat := []

namespace Process

variable (process : Process)

/-- The member of the object at an address. -/
def fileDescriptor (address : Nat) : Int := (process.objects address).getD (-1)

def store (address : Nat) (object : Option Int) : Process :=
  { process with objects := Function.update process.objects address object }

/-- A call returns a new descriptor. -/
def openAs (fd : Nat) (description : Description) : Process :=
  { process with
    descriptors := process.descriptors.insert fd description
    opened := process.opened ++ [fd] }

/-- `::close`, whoever has the descriptor open. A socket that is closed is no longer watched. -/
def close (fd : Nat) : Process :=
  { process with
    descriptors := process.descriptors.erase fd
    registrations := process.registrations.filter fun registration =>
      registration.epoll ≠ fd ∧ registration.fileDescriptor ≠ fd
    closed := process.closed ++ [fd] }

/-- A call that changes a socket. -/
def onSocket (fd : Int) (change : Option Sockaddr → Bool → Description) : Option Process :=
  if fd ≥ 0 then
    match process.descriptors.lookup fd.toNat with
    | some (.socket address nonBlocking) =>
      some { process with
        descriptors := process.descriptors.insert fd.toNat (change address nonBlocking) }
    | _ => none
  else none

end Process

namespace UdpSocket

def closeSocket (fd : Int) (process : Process) : Process :=
  if fd ≥ 0 then process.close fd.toNat else process

/-- `std::exchange(other.file_descriptor_, -1)`, into the object at `this`. -/
def exchange (this other : Nat) (process : Process) : Process :=
  (process.store this (some (process.fileDescriptor other))).store other (some (-1))

/-- The move constructor. -/
def moveConstruct (this other : Nat) (process : Process) : Process := exchange this other process

/-- `operator=`. -/
def moveAssign (this other : Nat) (process : Process) : Process :=
  if this ≠ other then
    exchange this other (closeSocket (process.fileDescriptor this) process)
  else process

/-- The destructor; there is no object any more. -/
def destroy (this : Nat) (process : Process) : Process :=
  (closeSocket (process.fileDescriptor this) process).store this none

/-- `open`, into the storage of its result; `socket` is the descriptor, if there is one. -/
def openSocket (this : Nat) (socket : Option Nat) (process : Process) :
    Except Exception Unit × Process :=
  match socket with
  | none => (.error (.systemError "socket"), process)
  | some fd => (.ok (), (process.openAs fd (.socket none false)).store this (some fd))

/-- `bind_to`; `bind` is the address that the socket gets. Its exceptions destroy the socket. -/
def bindTo (calls : SocketCalls) (this : Nat) (localEndpoint : Ipv4Endpoint)
    (socket : Option Nat) (bind : Sockaddr → Option Sockaddr) (process : Process) :
    Except Exception Unit × Process :=
  match openSocket this socket process with
  | (.error exception, process) => (.error exception, process)
  | (.ok _, process) =>
    match toSockaddr calls localEndpoint with
    | .error exception => (.error exception, destroy this process)
    | .ok address =>
      let bound := (bind address).bind fun bound =>
        process.onSocket (process.fileDescriptor this) fun _ nonBlocking =>
          .socket (some bound) nonBlocking
      match bound with
      | none => (.error (.systemError "bind"), destroy this process)
      | some process => (.ok (), process)

/-- `set_non_blocking`; the flags tell which of the two calls succeed. -/
def setNonBlocking (this : Nat) (getFlags setFlags : Bool) (process : Process) :
    Except Exception Unit × Process :=
  match process.onSocket (process.fileDescriptor this) (fun address _ => .socket address true) with
  | none => (.error (.systemError "fcntl(F_GETFL)"), process)
  | some changed =>
    if !getFlags then (.error (.systemError "fcntl(F_GETFL)"), process)
    else if !setFlags then (.error (.systemError "fcntl(F_SETFL)"), process)
    else (.ok (), changed)

end UdpSocket

end Driveflow.Net

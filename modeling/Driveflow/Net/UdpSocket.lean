import Driveflow.Cpp

/-!
# Datagrams

`udp_socket.hpp` and `udp_socket.cpp`, as far as the packets go: the size checks around `sendto`
and `recvmsg`. What the operating system answers is a parameter: `SocketCalls` for the calls that
depend on nothing but their arguments, and the datagram at the head of the receive queue for
`recvmsg`, which copies as much of it as the buffer holds and sets `MSG_TRUNC` for the rest.
-/

namespace Driveflow.Net

open Library

def kMaxUdpPayloadSize : Nat := 65507

structure Ipv4Endpoint where
  address : String := ""
  port : BitVec 16 := 0
  deriving DecidableEq, Repr

/-- A `sockaddr_in`: the address and the port as numbers. -/
structure Sockaddr where
  address : BitVec 32
  port : BitVec 16
  deriving DecidableEq, Repr

structure ReceivedDatagram where
  bytes : Bytes
  source : Ipv4Endpoint
  deriving DecidableEq, Repr

/-- The calls a socket makes. `none` is a text that is no address for `inetPton`, and a failed call
otherwise. -/
structure SocketCalls where
  inetPton : String → Option (BitVec 32)
  inetNtop : BitVec 32 → Option String
  sendto : Bytes → Sockaddr → Option Nat

/-- What `recvmsg` finds. -/
inductive Incoming where
  | datagram (bytes : Bytes) (source : Sockaddr)
  | wouldBlock
  | failed
  deriving DecidableEq, Repr

def toSockaddr (calls : SocketCalls) (endpoint : Ipv4Endpoint) : Except Exception Sockaddr :=
  match calls.inetPton endpoint.address with
  | none => .error (.invalidArgument ("invalid IPv4 address: " ++ endpoint.address))
  | some address => .ok { address, port := endpoint.port }

def fromSockaddr (calls : SocketCalls) (address : Sockaddr) : Except Exception Ipv4Endpoint :=
  match calls.inetNtop address.address with
  | none => .error (.systemError "inet_ntop")
  | some text => .ok { address := text, port := address.port }

/-- `UdpSocket::send_to`. -/
def sendTo (calls : SocketCalls) (bytes : Bytes) (destination : Ipv4Endpoint) :
    Except Exception Unit :=
  if bytes.length > kMaxUdpPayloadSize then
    .error (.lengthError "UDP payload exceeds the IPv4 limit")
  else do
    let address ← toSockaddr calls destination
    match calls.sendto bytes address with
    | none => .error (.systemError "sendto")
    | some sent =>
      if sent ≠ bytes.length then
        .error (.runtimeError "sendto returned a partial UDP datagram")
      else .ok ()

/-- `receive_datagram`. -/
def receiveDatagram (calls : SocketCalls) (incoming : Incoming) (maximumSize : Nat)
    (returnWouldBlock : Bool) : Except Exception (Option ReceivedDatagram) :=
  if maximumSize = 0 ∨ maximumSize > kMaxUdpPayloadSize then
    .error (.invalidArgument "UDP receive size must be between 1 and 65507 bytes")
  else
    match incoming with
    | .failed => .error (.systemError "recvmsg")
    | .wouldBlock => if returnWouldBlock then .ok none else .error (.systemError "recvmsg")
    | .datagram pending sender =>
      let received := pending.take maximumSize
      let truncated := maximumSize < pending.length
      if truncated ∨ received.length > maximumSize then
        .error (.lengthError "received UDP datagram exceeds the configured buffer")
      else do
        let source ← fromSockaddr calls sender
        .ok (some { bytes := received, source })

/-- `UdpSocket::try_receive`. -/
def tryReceive (calls : SocketCalls) (incoming : Incoming)
    (maximumSize : Nat := kMaxUdpPayloadSize) : Except Exception (Option ReceivedDatagram) :=
  receiveDatagram calls incoming maximumSize true

/-! ## What the size checks come to -/

/-- The length check of `send_to` is passed by every datagram that fits. -/
theorem sendTo_ne_lengthError {calls : SocketCalls} {bytes : Bytes}
    {destination : Ipv4Endpoint} (fits : bytes.length ≤ kMaxUdpPayloadSize) (what : String) :
    sendTo calls bytes destination ≠ .error (.lengthError what) := by
  rw [sendTo, if_neg (Nat.not_lt.mpr fits), toSockaddr]
  cases calls.inetPton destination.address with
  | none => exact fun h => nomatch h
  | some address =>
    change (match calls.sendto bytes _ with
      | none => _
      | some sent => _) ≠ _
    split
    · exact fun h => nomatch h
    · split
      · exact fun h => nomatch h
      · exact fun h => nomatch h

/-- A datagram that fits the buffer arrives whole. -/
theorem receiveDatagram_eq {calls : SocketCalls} {bytes : Bytes} {sender : Sockaddr}
    {maximumSize : Nat} {returnWouldBlock : Bool} (positive : maximumSize ≠ 0)
    (allowed : maximumSize ≤ kMaxUdpPayloadSize) (fits : bytes.length ≤ maximumSize) :
    receiveDatagram calls (.datagram bytes sender) maximumSize returnWouldBlock =
      (fromSockaddr calls sender).map fun source => some { bytes, source } := by
  have hsize : ¬ (maximumSize = 0 ∨ maximumSize > kMaxUdpPayloadSize) :=
    not_or.mpr ⟨positive, Nat.not_lt.mpr allowed⟩
  have hwhole : bytes.take maximumSize = bytes := List.take_of_length_le fits
  have hfits : ¬ (maximumSize < bytes.length ∨ bytes.length > maximumSize) :=
    not_or.mpr ⟨Nat.not_lt.mpr fits, Nat.not_lt.mpr fits⟩
  simp only [receiveDatagram, if_neg hsize, hwhole, if_neg hfits]
  cases fromSockaddr calls sender <;> rfl

end Driveflow.Net

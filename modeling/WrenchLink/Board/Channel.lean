/-
The two channels to a board: a byte stream for requests and replies, and datagrams sent
through the interface's shared socket.

Around the channels is a network of which three things matter: where a datagram socket can
be bound, where somebody accepts connections, and how much of what is sent the system takes.
A stream delivers bytes in order and without loss; what the board has sent and nobody has
read yet is `pending`.

An operation gives its outcome together with the channel that it leaves behind, also where
the outcome is a fault.
-/
import WrenchLink.Packet

namespace WrenchLink

structure Network where
  bindable : Endpoint → Bool
  accepting : Endpoint → Bool
  /-- How many of the bytes that are sent to an endpoint the system takes, or why it takes
  none.  It never takes more than there are. -/
  takes : Service → Endpoint → Bytes → Except SystemFault Nat

/-- Hands bytes to the system: how many it took or its fault, and the bytes that go out. -/
def Network.send (net : Network) (service : Service) (peer : Endpoint) (bytes : Bytes) :
    Except Fault Nat × Bytes :=
  match net.takes service peer bytes with
  | .error cause => (.error (.system cause), [])
  | .ok count => (.ok (bytes.take count).length, bytes.take count)

structure Stream where
  /-- What the board has sent and nobody has read. -/
  pending : Bytes := []
  /-- The board will send nothing more. -/
  ended : Bool := false
  sent : Bytes := []
  deriving DecidableEq, Repr

structure TcpChannel where
  peer : Endpoint
  /-- Bound on the wait for data, in milliseconds; without one the wait has no end.  A socket
  refuses a bound of zero. -/
  readTimeout : Option Nat := none
  stream : Option Stream := none
  deriving DecidableEq, Repr

namespace TcpChannel

def isConnected (c : TcpChannel) : Bool := c.stream.isSome

/-- Opens a new connection in place of any earlier one, which stays if that fails. -/
def connect (net : Network) (c : TcpChannel) : Except Fault Unit × TcpChannel :=
  if !net.accepting c.peer then (.error (.transport (.connectFailed c.peer)), c)
  else if c.readTimeout = some 0 then (.error (.transport .readTimeoutRefused), c)
  else (.ok (), { c with stream := some {} })

def send (net : Network) (c : TcpChannel) (bytes : Bytes) : Except Fault Nat × TcpChannel :=
  match c.stream with
  | none => (.error (.transport (.notConnected c.peer)), c)
  | some s =>
    let (outcome, taken) := net.send .tcp c.peer bytes
    (outcome, { c with stream := some { s with sent := s.sent ++ taken } })

/-- Reads what is there into a packet's storage and tells how many bytes that was.  Where
nothing is, the board has ended the stream or the wait runs out; if the wait has no end, the
call has not returned, and there is no number. -/
def receive (c : TcpChannel) (packet : Packet) :
    Except Fault (Option Nat) × Packet × TcpChannel :=
  match c.stream with
  | none => (.error (.transport (.notConnected c.peer)), packet, c)
  | some s =>
    let taken := s.pending.take packetCapacity
    let outcome : Except Fault (Option Nat) :=
      if taken ≠ [] then .ok (some taken.length)
      else if s.ended then .error (.transport (.closedByPeer c.peer))
      else if c.readTimeout.isSome then .error (.system .readTimedOut)
      else .ok none
    (outcome, packet.fill taken,
      { c with stream := some { s with pending := s.pending.drop packetCapacity } })

def deliver (c : TcpChannel) (bytes : Bytes) : TcpChannel :=
  { c with stream := c.stream.map fun s =>
      if s.ended then s else { s with pending := s.pending ++ bytes } }

/-- The board ends the stream; what is pending can still be read. -/
def hangUp (c : TcpChannel) : TcpChannel :=
  { c with stream := c.stream.map fun s => { s with ended := true } }

end TcpChannel

/-- A sender of datagrams to one endpoint.  It owns no socket: it sends through the shared
one, once it has been given that. -/
structure UdpChannel where
  destination : Endpoint
  hasSocket : Bool := false
  sent : List Bytes := []
  deriving DecidableEq, Repr

namespace UdpChannel

def adoptSocket (c : UdpChannel) : UdpChannel := { c with hasSocket := true }

def send (net : Network) (c : UdpChannel) (bytes : Bytes) : Except Fault Nat × UdpChannel :=
  if !c.hasSocket then (.error .notBound, c)
  else match net.send .udp c.destination bytes with
    | (.error fault, _) => (.error fault, c)
    | (.ok count, taken) => (.ok count, { c with sent := c.sent ++ [taken] })

end UdpChannel
end WrenchLink

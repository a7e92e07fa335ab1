/-
One remote board: its address, the services it declares, its channels and the observers
of its datagrams.

Like those of its channels, a board's operations give the board that they leave behind
whether they succeed or not.
-/
import WrenchLink.Board.Channel
import WrenchLink.Board.Registry

namespace WrenchLink

structure BoardSpec where
  address : Address
  tcpService : Bool
  tcpPort : UInt16
  udpService : Bool
  udpPort : UInt16
  deriving DecidableEq, Repr

structure Board (η : Type) where
  /-- Position among the boards of its interface. -/
  id : Nat
  address : Address
  tcpService : Bool
  udpService : Bool
  tcp : TcpChannel
  udp : UdpChannel
  registry : Registry η := {}
  deriving DecidableEq, Repr

/-- What became of a receive and of the packet that was received into. -/
structure Receipt where
  /-- How many bytes came, which is nothing while the call still waits. -/
  received : Except Fault (Option Nat)
  packet : Packet

namespace Board

variable {η : Type}

def new (id : Nat) (spec : BoardSpec) (tcpReadTimeout : Option Nat) : Board η where
  id := id
  address := spec.address
  tcpService := spec.tcpService
  udpService := spec.udpService
  tcp := { peer := ⟨spec.address, spec.tcpPort⟩, readTimeout := tcpReadTimeout }
  udp := { destination := ⟨spec.address, spec.udpPort⟩ }

/-- The stream of a board that declares one, newly opened. -/
def openStream (net : Network) (b : Board η) : Except Fault Unit × TcpChannel :=
  if b.tcpService then b.tcp.connect net else (.ok (), b.tcp)

/-- Opens the declared services, the stream first.  Datagrams need no connection, only the
shared socket. -/
def connect (net : Network) (b : Board η) : Except Fault Unit × Board η :=
  let (outcome, tcp) := b.openStream net
  let b := { b with tcp }
  match outcome with
  | .error fault => (.error fault, b)
  | .ok () => (.ok (), { b with udp := if b.udpService then b.udp.adoptSocket else b.udp })

def require (b : Board η) (service : Service) : Except Fault Unit :=
  let declared := match service with
    | .tcp => b.tcpService
    | .udp => b.udpService
  if declared then .ok () else .error (.serviceUnavailable b.id service)

def sendTcp (net : Network) (b : Board η) (packet : Packet) : Except Fault Nat × Board η :=
  match b.require .tcp with
  | .error fault => (.error fault, b)
  | .ok () =>
    let (outcome, tcp) := b.tcp.send net packet.bytes
    (outcome, { b with tcp })

/-- Receives into a packet.  How much of it counts is set last, once bytes have come. -/
def receiveTcp (b : Board η) (packet : Packet) : Receipt × Board η :=
  match b.require .tcp with
  | .error fault => (⟨.error fault, packet⟩, b)
  | .ok () =>
    let (received, packet, tcp) := b.tcp.receive packet
    let packet := match received with
      | .ok (some count) => packet.setSize count
      | .ok none | .error _ => packet
    (⟨received, packet⟩, { b with tcp })

def sendUdp (net : Network) (b : Board η) (packet : Packet) : Except Fault Nat × Board η :=
  match b.require .udp with
  | .error fault => (.error fault, b)
  | .ok () =>
    let (outcome, udp) := b.udp.send net packet.bytes
    (outcome, { b with udp })

def install (b : Board η) (handler : η) : Nat × Board η :=
  let (token, registry) := b.registry.install handler
  (token, { b with registry })

def remove (b : Board η) (token : Nat) : Bool × Board η :=
  let (removed, registry) := b.registry.remove token
  (removed, { b with registry })

def describe (b : Board η) : String :=
  "Board \x7b id: " ++ toString b.id ++ ", address: " ++ b.address.toString ++
    ", tcp_service: " ++ toString b.tcpService ++ ", udp_service: " ++ toString b.udpService ++
    ", handlers: " ++ toString b.registry.count ++ " \x7d"

end Board
end WrenchLink

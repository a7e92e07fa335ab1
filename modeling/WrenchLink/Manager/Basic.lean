/-
The interface manager: the boards behind one local interface, the shared datagram socket,
and the watch over boards that fall silent.

Time is a count of the stretches that were long enough for any timeout to run out.  A
board is silent if such a stretch has passed since it was last seen.  Every operation gives
the manager that it leaves behind beside its outcome, which may be a fault.
-/
import WrenchLink.Board.Basic

namespace WrenchLink

structure Datagram where
  sender : Address
  bytes : Bytes
  deriving DecidableEq, Repr

/-- The shared socket, with the datagrams that nobody has received yet, oldest first. -/
structure DatagramSocket where
  interface : Endpoint
  /-- In milliseconds, and never zero: a socket refuses that. -/
  readTimeout : Nat
  queue : List Datagram := []
  deriving DecidableEq, Repr

/-- A call of a handler: with a datagram's bytes, or with a board that is silent. -/
inductive Event (η : Type) where
  | datagram (handler : η) (bytes : Bytes)
  | silent (handler : η) (board : Nat)
  deriving DecidableEq, Repr

structure Manager (η : Type) where
  interface : Endpoint
  /-- Poll timeout in milliseconds, and how long a board may be silent. -/
  timeout : Nat
  /-- Bound on waiting for replies, for boards added from now on. -/
  tcpReadTimeout : Option Nat := none
  boards : List (Board η) := []
  /-- When each board was last seen, in the order of the boards. -/
  lastSeen : List Nat := []
  now : Nat := 0
  timeoutHandler : Option η := none
  socket : Option DatagramSocket := none
  receiving : Bool := false
  deriving DecidableEq, Repr

namespace Manager

variable {η : Type}

def new (interface : Endpoint) : Manager η :=
  { interface, timeout := defaultTimeoutMs.toNat }

def isBound (m : Manager η) : Bool := m.socket.isSome

def boundTo (m : Manager η) : Except Fault Endpoint :=
  match m.socket with
  | some s => .ok s.interface
  | none => .error .notBound

/-- Changes the poll timeout, and the socket's with it.  Nothing changes while the receive
loop runs, or if an open socket refuses the timeout. -/
def withTimeout (m : Manager η) (timeout : Nat) : Manager η :=
  if m.receiving then m
  else match m.socket with
    | none => { m with timeout }
    | some s =>
      if timeout = 0 then m
      else { m with timeout, socket := some { s with readTimeout := timeout } }

def withTcpReadTimeout (m : Manager η) (timeout : Option Nat) : Manager η :=
  { m with tcpReadTimeout := timeout }

/-- Time passes, longer than any timeout. -/
def wait (m : Manager η) : Manager η := { m with now := m.now + 1 }

/-! ## Boards -/

def addBoard (m : Manager η) (spec : BoardSpec) : Except Fault Nat × Manager η :=
  let id := m.boards.length
  if maxBoards ≤ id then (.error .boardLimitReached, m)
  else (.ok id,
    { m with
      boards := m.boards ++ [Board.new id spec m.tcpReadTimeout]
      lastSeen := m.lastSeen ++ [m.now] })

def board (m : Manager η) (id : Nat) : Except Fault (Board η) :=
  match m.boards[id]? with
  | some b => .ok b
  | none => .error (.invalidBoardId id)

def setBoard (m : Manager η) (id : Nat) (b : Board η) : Manager η :=
  { m with boards := m.boards.set id b }

/-- An operation on one board.  Without a board of that number, `refusal` is what becomes of
it. -/
def withBoard {α : Type} (m : Manager η) (id : Nat) (refusal : Fault → α)
    (operation : Board η → α × Board η) : α × Manager η :=
  match m.board id with
  | .error fault => (refusal fault, m)
  | .ok b =>
    let (answer, b) := operation b
    (answer, m.setBoard id b)

def install (m : Manager η) (id : Nat) (handler : η) : Except Fault Nat × Manager η :=
  m.withBoard id .error fun b =>
    let (token, b) := b.install handler
    (.ok token, b)

def remove (m : Manager η) (id token : Nat) : Except Fault Bool × Manager η :=
  m.withBoard id .error fun b =>
    let (removed, b) := b.remove token
    (.ok removed, b)

def handlerCount (m : Manager η) (id : Nat) : Except Fault Nat := do
  let b ← m.board id
  return b.registry.count

def sendTcp (net : Network) (m : Manager η) (id : Nat) (packet : Packet) :
    Except Fault Nat × Manager η :=
  m.withBoard id .error (·.sendTcp net packet)

def receiveTcp (m : Manager η) (id : Nat) (packet : Packet) : Receipt × Manager η :=
  m.withBoard id (⟨.error ·, packet⟩) (·.receiveTcp packet)

def sendUdp (net : Network) (m : Manager η) (id : Nat) (packet : Packet) :
    Except Fault Nat × Manager η :=
  m.withBoard id .error (·.sendUdp net packet)

/-! ## Connecting -/

def bind (net : Network) (m : Manager η) : Except Fault Unit × Manager η :=
  if m.isBound then (.ok (), m)
  else if !net.bindable m.interface then (.error (.transport (.bindFailed m.interface)), m)
  else if m.timeout = 0 then (.error (.transport .readTimeoutRefused), m)
  else (.ok (),
    { m with socket := some { interface := m.interface, readTimeout := m.timeout } })

def connectBoards (net : Network) : List (Board η) → Except Fault Unit × List (Board η)
  | [] => (.ok (), [])
  | b :: rest =>
    match b.connect net with
    | (.error fault, b) => (.error fault, b :: rest)
    | (.ok (), b) =>
      let (outcome, rest) := connectBoards net rest
      (outcome, b :: rest)

/-- Opens the socket, then connects the boards.  Boards in front of one that fails stay
connected. -/
def connectAll (net : Network) (m : Manager η) : Except Fault Unit × Manager η :=
  match m.bind net with
  | (.error fault, m) => (.error fault, m)
  | (.ok (), m) =>
    let (outcome, boards) := connectBoards net m.boards
    (outcome, { m with boards })

/-! ## Datagrams and silence -/

/-- A datagram arrives at the shared socket; without one it is lost. -/
def enqueue (m : Manager η) (d : Datagram) : Manager η :=
  { m with socket := m.socket.map fun s => { s with queue := s.queue ++ [d] } }

/-- Installs the handler of silent boards in place of any earlier one, and counts every
board as just seen. -/
def installTimeoutHandler (m : Manager η) (handler : η) : Manager η :=
  { m with timeoutHandler := some handler, lastSeen := m.lastSeen.map fun _ => m.now }

def notify (m : Manager η) (board : Nat) : List (Event η) :=
  match m.timeoutHandler with
  | some handler => [.silent handler board]
  | none => []

def targets (m : Manager η) (sender : Address) : List (Board η) :=
  m.boards.filter fun b => b.address = sender

def refresh (m : Manager η) (sender : Address) : Manager η :=
  { m with lastSeen := m.lastSeen.mapIdx fun id seen =>
      if m.boards[id]?.any (·.address = sender) then m.now else seen }

/-- The calls of a datagram's handlers: for each board at the sender's address, each of
its handlers. -/
def dispatch (m : Manager η) (sender : Address) (bytes : Bytes) : List (Event η) :=
  (m.targets sender).flatMap fun b => b.registry.handlers.map (.datagram · bytes)

def silentBoards (m : Manager η) : List Nat :=
  (List.range m.lastSeen.length).filter fun id => m.lastSeen[id]?.any (· < m.now)

def sweep (m : Manager η) : List (Event η) := m.silentBoards.flatMap m.notify

structure Received (η : Type) where
  outcome : Except Fault Nat
  packet : Packet
  events : List (Event η)
  manager : Manager η

/-- Waits up to the poll timeout for one datagram.  A datagram goes to the boards at its
sender's address, whose clocks it restarts, and then the silent boards are reported.  If
none comes, that is reported, and the packet keeps what it held. -/
def receive (m : Manager η) (packet : Packet) : Received η :=
  match m.socket with
  | none => ⟨.error .notBound, packet, [], m⟩
  | some s =>
    match s.queue with
    | [] => ⟨.error .recvTimeout, packet, m.notify noTrafficBoard, m.wait⟩
    | d :: rest =>
      let packet := packet.store d.bytes
      let m := { m with socket := some { s with queue := rest } }.refresh d.sender
      ⟨.ok packet.size, packet, m.dispatch d.sender packet.bytes ++ m.sweep, m⟩

/-! ## The receive loop -/

/-- Starts the receive loop, which needs an open socket; a no-op while it runs. -/
def startReceiving (m : Manager η) : Except Fault Unit × Manager η :=
  if m.isBound then (.ok (), { m with receiving := true }) else (.error .notBound, m)

/-- Stops the receive loop and tells whether it ran.  A loop that runs is in the middle of a
poll and ends with that: it takes a datagram, or it waits in vain and reports so. -/
def stopReceiving (m : Manager η) : Bool × List (Event η) × Manager η :=
  if m.receiving then
    let r := m.receive Packet.empty
    (true, r.events, { r.manager with receiving := false })
  else (false, [], m)

def drain (m : Manager η) (packet : Packet) : Nat → List (Event η) × Manager η
  | 0 => ([], m)
  | fuel + 1 =>
    let r := m.receive packet
    let (events, m) := r.manager.drain r.packet fuel
    (r.events ++ events, m)

def receiveQueued (m : Manager η) : List (Event η) × Manager η :=
  match m.socket with
  | some s => m.drain Packet.empty s.queue.length
  | none => ([], m)

end Manager
end WrenchLink

/-
A manager together with the sensors that were attached to it.

Every handler of the manager is either an observer from outside, which is told of each
datagram, or the one by which a sensor gets its samples.  `Session.step` performs one
operation in a network and gives its outcome with the calls that observers saw, in their
order; `Session.run` performs a list of them, each in the network that it meets.

A call that has not returned is one of the outcomes.  The operations after it are those of
others, until what it waits for has come.
-/
import WrenchLink.Manager.Configured
import WrenchLink.Sensor.Basic

namespace WrenchLink

inductive Callback (τ : Type) where
  | observer (tag : τ)
  /-- The sensor of that number keeps the sample. -/
  | sensor (index : Nat)
  deriving DecidableEq, Repr

abbrev Notice (τ : Type) := Event τ

/-- What can happen to a session.  The operations from `datagramArrives` to `boardHangsUp`
are the surroundings' doing. -/
inductive Operation (τ : Type) where
  | addBoard (spec : BoardSpec)
  | bind
  | connectAll
  | withTimeout (milliseconds : Nat)
  | withTcpReadTimeout (milliseconds : Option Nat)
  | startReceiving
  | stopReceiving
  | installTimeoutHandler (tag : τ)
  | install (board : Nat) (tag : τ)
  | remove (board token : Nat)
  | handlerCount (board : Nat)
  | sendTcp (board : Nat) (packet : Packet)
  | receiveTcp (board : Nat) (packet : Packet)
  | sendUdp (board : Nat) (packet : Packet)
  /-- Receives one datagram into the session's own packet. -/
  | receive
  | attachSensor (board : Nat)
  | configureSensor (sensor : Nat) (settleTime : Nat) (limits : Limits)
  | dropSensor (sensor : Nat)
  | request (sensor : Nat) (request : Request)
  /-- The time runs out for which a sensor lets its board settle, and its call goes on. -/
  | settles (sensor : Nat)
  | datagramArrives (datagram : Datagram)
  | loopCatchesUp
  | timePasses
  | boardWrites (board : Nat) (bytes : Bytes)
  | boardHangsUp (board : Nat)

inductive Reply where
  | done
  | number (n : Nat)
  | flag (b : Bool)
  | packet (p : Packet)
  | answer (a : Answer)
  /-- The call has not returned: it waits for data, or for a board to settle. -/
  | waiting
  /-- There is no sensor of that number, or no longer. -/
  | noSuchSensor

structure Session (τ : Type) where
  manager : Manager (Callback τ)
  /-- The sensors by number; a dropped one leaves its number unused. -/
  sensors : List (Option Sensor) := []
  inbox : Packet := Packet.empty

structure Stepped (τ : Type) where
  outcome : Except Fault Reply
  notices : List (Notice τ)
  session : Session τ

namespace Session

variable {τ : Type}

def start (m : Manager (Callback τ)) : Session τ := { manager := m }

/-- The sensor of a number, unless it was dropped. -/
def sensor? (s : Session τ) (index : Nat) : Option Sensor := (s.sensors[index]?).join

def setSensor (s : Session τ) (index : Nat) (sensor : Sensor) : Session τ :=
  { s with sensors := s.sensors.set index (some sensor) }

/-- What an observer is told of an event; samples for sensors are none of its business. -/
def notice? : Event (Callback τ) → Option (Notice τ)
  | .datagram (.observer tag) bytes => some (.datagram tag bytes)
  | .silent (.observer tag) board => some (.silent tag board)
  | .datagram (.sensor _) _ | .silent (.sensor _) _ => none

def deliver (s : Session τ) : Event (Callback τ) → Session τ
  | .datagram (.sensor index) bytes =>
    match s.sensor? index with
    | some sensor => s.setSensor index (sensor.observe bytes)
    | none => s
  | _ => s

/-- The session after a list of events, with the notices that they caused. -/
def witness (s : Session τ) (events : List (Event (Callback τ))) :
    List (Notice τ) × Session τ :=
  (events.filterMap notice?, events.foldl deliver s)

def attachSensor (s : Session τ) (board : Nat) : Except Fault Nat × Session τ :=
  let index := s.sensors.length
  let (installed, manager) := s.manager.install board (.sensor index)
  let s := { s with manager }
  match installed with
  | .error fault => (.error fault, s)
  | .ok token => (.ok index, { s with sensors := s.sensors ++ [some { board, token }] })

def dropSensor (s : Session τ) (index : Nat) : Session τ :=
  match s.sensor? index with
  | none => s
  | some sensor =>
    let (_, manager) := s.manager.remove sensor.board sensor.token
    { s with manager, sensors := s.sensors.set index none }

/-- An operation of the manager, with the manager that it leaves behind. -/
def lift {α : Type} (s : Session τ) (reply : α → Reply)
    (result : Except Fault α × Manager (Callback τ)) : Stepped τ :=
  ⟨result.1.map reply, [], { s with manager := result.2 }⟩

def settle (s : Session τ) (manager : Manager (Callback τ)) : Stepped τ :=
  ⟨.ok .done, [], { s with manager }⟩

def withStream (s : Session τ) (board : Nat) (f : TcpChannel → TcpChannel) : Stepped τ :=
  match s.manager.boards[board]? with
  | none => ⟨.ok .done, [], s⟩
  | some b => s.settle (s.manager.setBoard board { b with tcp := f b.tcp })

def step (net : Network) (s : Session τ) : Operation τ → Stepped τ
  | .addBoard spec => s.lift .number (s.manager.addBoard spec)
  | .bind => s.lift (fun _ => .done) (s.manager.bind net)
  | .connectAll => s.lift (fun _ => .done) (s.manager.connectAll net)
  | .withTimeout milliseconds => s.settle (s.manager.withTimeout milliseconds)
  | .withTcpReadTimeout milliseconds => s.settle (s.manager.withTcpReadTimeout milliseconds)
  | .startReceiving => s.lift (fun _ => .done) s.manager.startReceiving
  | .stopReceiving =>
    let (running, events, manager) := s.manager.stopReceiving
    let (notices, s) := { s with manager }.witness events
    ⟨.ok (.flag running), notices, s⟩
  | .installTimeoutHandler tag => s.settle (s.manager.installTimeoutHandler (.observer tag))
  | .install board tag => s.lift .number (s.manager.install board (.observer tag))
  | .remove board token => s.lift .flag (s.manager.remove board token)
  | .handlerCount board => s.lift .number (s.manager.handlerCount board, s.manager)
  | .sendTcp board packet => s.lift .number (s.manager.sendTcp net board packet)
  | .receiveTcp board packet =>
    let (receipt, manager) := s.manager.receiveTcp board packet
    s.lift (Option.elim · .waiting fun _ => .packet receipt.packet) (receipt.received, manager)
  | .sendUdp board packet => s.lift .number (s.manager.sendUdp net board packet)
  | .receive =>
    let r := s.manager.receive s.inbox
    let (notices, s) := { s with manager := r.manager, inbox := r.packet }.witness r.events
    ⟨r.outcome.map .number, notices, s⟩
  | .attachSensor board =>
    let (attached, s) := s.attachSensor board
    ⟨attached.map .number, [], s⟩
  | .configureSensor index settleTime limits =>
    match s.sensor? index with
    | none => ⟨.ok .noSuchSensor, [], s⟩
    | some sensor =>
      ⟨.ok .done, [], s.setSensor index { sensor with settleTime, limits }⟩
  | .dropSensor index => ⟨.ok .done, [], s.dropSensor index⟩
  | .request index request =>
    match s.sensor? index with
    | none => ⟨.ok .noSuchSensor, [], s⟩
    | some sensor =>
      let e := sensor.perform net s.manager request
      ⟨e.outcome.map (Option.elim · .waiting .answer), [],
        { s with manager := e.manager }.setSensor index e.sensor⟩
  | .settles index =>
    match s.sensor? index with
    | none => ⟨.ok .noSuchSensor, [], s⟩
    | some sensor =>
      let (outcome, sensor) := sensor.settled
      ⟨outcome.elim (.ok .done) (·.map .answer), [], s.setSensor index sensor⟩
  | .datagramArrives datagram => s.settle (s.manager.enqueue datagram)
  | .loopCatchesUp =>
    let (events, manager) := s.manager.receiveQueued
    let (notices, s) := { s with manager }.witness events
    ⟨.ok .done, notices, s⟩
  | .timePasses => s.settle s.manager.wait
  | .boardWrites board bytes => s.withStream board (·.deliver bytes)
  | .boardHangsUp board => s.withStream board (·.hangUp)

def run (s : Session τ) : List (Network × Operation τ) → List (Stepped τ)
  | [] => []
  | (net, operation) :: rest =>
    let stepped := s.step net operation
    stepped :: stepped.session.run rest

end Session
end WrenchLink

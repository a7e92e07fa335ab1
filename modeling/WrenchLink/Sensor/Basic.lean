/-
A sensor: one board of a manager, seen as a force/torque instrument.

A sensor makes its requests through a packet of its own, which holds the last request or
reply.  A reply is whatever one read of the board's stream gives: it is decoded as the
kind that is awaited, and only then its id is checked.  Samples reach a sensor by way of
the handler that it installed on its board.

A request may not return at once: its receive may wait, and an offset calibration lets the
board settle.  Its outcome is then not an answer but `none`, and what else happens goes on
beside it.
-/
import WrenchLink.Manager.Basic
import WrenchLink.Sensor.Limits
import WrenchLink.Sensor.Request

namespace WrenchLink

structure Sensor where
  board : Nat
  /-- The token of the handler that brings samples. -/
  token : Nat
  scratch : Packet := Packet.empty
  sample : Sample := Sample.zero
  /-- How long the board settles after an offset calibration, in milliseconds. -/
  settleTime : Nat := defaultSettleTimeMs.toNat
  /-- An offset calibration waits for the board to settle. -/
  settling : Bool := false
  limits : Limits := Limits.default

namespace Sensor

variable {η : Type}

def observe (s : Sensor) (bytes : Bytes) : Sensor :=
  match Sample.ofDatagram? bytes with
  | some sample => { s with sample }
  | none => s

/-- A sensor is always taken to be there: it is for the manager to report a silent board. -/
def isReachable (_ : Sensor) : Bool := true

def withinLimits (s : Sensor) : Bool := s.limits.accepts s.sample.forceTorque

/-- What became of a request: its outcome, the sensor and the manager afterwards. -/
structure Exchange (α η : Type) where
  outcome : Except Fault α
  sensor : Sensor
  manager : Manager η

/-- Encodes a message into the sensor's packet and sends that.  How much of it was sent is
not looked at. -/
def command (net : Network) (s : Sensor) (m : Manager η) (message : Message) :
    Exchange Unit η :=
  let (encoded, scratch) := s.scratch.encode message
  let s := { s with scratch }
  match encoded with
  | .error fault => ⟨.error fault, s, m⟩
  | .ok _ =>
    let (sent, m) := m.sendTcp net s.board scratch
    ⟨sent.map fun _ => (), s, m⟩

def readReply (awaited : Awaited) (bytes : Bytes) : Except Fault Answer := do
  let (decoded, _) ← Message.decodeAs awaited.reply bytes
  let values ← decoded.expect awaited.reply
  return awaited.answer values

/-- What a receive brought.  There is no answer while it waits. -/
def readReceipt (awaited : Awaited) (receipt : Receipt) : Except Fault (Option Answer) :=
  match receipt.received with
  | .error fault => .error fault
  | .ok none => .ok none
  | .ok (some _) => (readReply awaited receipt.packet.bytes).map some

/-- Sends a message and receives once. -/
def transact (net : Network) (s : Sensor) (m : Manager η) (message : Message)
    (awaited : Awaited) : Exchange (Option Answer) η :=
  let sent := s.command net m message
  match sent.outcome with
  | .error fault => ⟨.error fault, sent.sensor, sent.manager⟩
  | .ok () =>
    let (receipt, m) := sent.manager.receiveTcp sent.sensor.board sent.sensor.scratch
    ⟨readReceipt awaited receipt, { sent.sensor with scratch := receipt.packet }, m⟩

/-- What an offset calibration comes to with the latest sample. -/
def verdict (s : Sensor) : Except Fault Answer :=
  if s.withinLimits then .ok .done else .error .calibrationOutOfBounds

/-- The wait for the board to settle begins.  It is over at once if it takes no time. -/
def settle (s : Sensor) : Except Fault (Option Answer) × Sensor :=
  if s.settleTime = 0 then (s.verdict.map some, s) else (.ok none, { s with settling := true })

/-- The board has settled.  Only a sensor that waits for that has something to say to it. -/
def settled (s : Sensor) : Option (Except Fault Answer) × Sensor :=
  if s.settling then (some s.verdict, { s with settling := false }) else (none, s)

/-- What a request that awaits no reply comes to once it is sent. -/
def conclude (s : Sensor) (request : Request) : Except Fault (Option Answer) × Sensor :=
  if request = .calibrateOffsets then s.settle else (.ok (some .done), s)

/-- Makes a request.  Calibrating the offsets succeeds only if the latest sample is within
the limits once the board has settled. -/
def perform (net : Network) (s : Sensor) (m : Manager η) (request : Request) :
    Exchange (Option Answer) η :=
  match request.awaited with
  | some awaited => s.transact net m request.message awaited
  | none =>
    let sent := s.command net m request.message
    match sent.outcome with
    | .error fault => ⟨.error fault, sent.sensor, sent.manager⟩
    | .ok () =>
      let (outcome, s) := sent.sensor.conclude request
      ⟨outcome, s, sent.manager⟩

end Sensor
end WrenchLink

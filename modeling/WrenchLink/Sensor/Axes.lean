/-
Six values, one for each axis of a sensor, and what a broadcast holds of them.

The axes are the forces along and the torques about x, y and z, in that order.
-/
import WrenchLink.Message.Frame

namespace WrenchLink

structure Axes (α : Type) where
  fx : α
  fy : α
  fz : α
  tx : α
  ty : α
  tz : α
  deriving DecidableEq, Repr

namespace Axes

variable {α β : Type}

def toList (x : Axes α) : List α := [x.fx, x.fy, x.fz, x.tx, x.ty, x.tz]

def ofList? : List α → Option (Axes α)
  | [fx, fy, fz, tx, ty, tz] => some ⟨fx, fy, fz, tx, ty, tz⟩
  | _ => none

def map (f : α → β) (x : Axes α) : Axes β :=
  ⟨f x.fx, f x.fy, f x.fz, f x.tx, f x.ty, f x.tz⟩

end Axes

/-- A broadcast: the force and torque on every axis, in thousandths, and the six raw
channels. -/
structure Sample where
  forceTorque : Axes Binary32
  raw : Axes Binary32
  deriving DecidableEq, Repr

namespace Sample

/-- The sample that is held before any has arrived. -/
def zero : Sample := ⟨⟨⟨0⟩, ⟨0⟩, ⟨0⟩, ⟨0⟩, ⟨0⟩, ⟨0⟩⟩, ⟨⟨0⟩, ⟨0⟩, ⟨0⟩, ⟨0⟩, ⟨0⟩, ⟨0⟩⟩⟩

def ofValues : Values MessageId.broadcastSensorData.fields → Sample
  | (fx, fy, fz, tx, ty, tz, r0, r1, r2, r3, r4, r5, ()) =>
    ⟨⟨fx, fy, fz, tx, ty, tz⟩, ⟨r0, r1, r2, r3, r4, r5⟩⟩

/-- The sample that a datagram carries: there is one if the datagram starts with a whole
broadcast frame and its header says so. -/
def ofDatagram? (bytes : Bytes) : Option Sample :=
  match Message.decodeAs .broadcastSensorData bytes with
  | .error _ => none
  | .ok (d, _) =>
    match d.expect .broadcastSensorData with
    | .error _ => none
    | .ok values => some (ofValues values)

def inSIUnits (s : Sample) : Axes Binary32 := s.forceTorque.map (Binary32.divNat · 1000)

end Sample
end WrenchLink

/-
How far a reading may be from zero after the offsets have been calibrated.
-/
import WrenchLink.Sensor.Axes

namespace WrenchLink

/-- Bounds on the unscaled readings. -/
structure Limits where
  maxForceXY : Binary32
  maxForceZ : Binary32
  maxTorqueXY : Binary32
  maxTorqueZ : Binary32
  deriving DecidableEq, Repr

namespace Limits

def default : Limits :=
  ⟨.ofInt 50000, .ofInt 30000, .ofInt 3500, .ofInt 4500⟩

instance : Inhabited Limits := ⟨default⟩

def bounds (l : Limits) : Axes Binary32 :=
  ⟨l.maxForceXY, l.maxForceXY, l.maxForceZ, l.maxTorqueXY, l.maxTorqueXY, l.maxTorqueZ⟩

/-- Every axis is within its bound.  A reading or a bound that is not a number is within
nothing. -/
def accepts (l : Limits) (reading : Axes Binary32) : Bool :=
  (reading.toList.zip l.bounds.toList).all fun (x, bound) => x.abs.le bound

def agrees (l k : Limits) : Bool :=
  l.maxForceXY.valueEq k.maxForceXY && l.maxForceZ.valueEq k.maxForceZ &&
    l.maxTorqueXY.valueEq k.maxTorqueXY && l.maxTorqueZ.valueEq k.maxTorqueZ

end Limits
end WrenchLink

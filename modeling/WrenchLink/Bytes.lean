/-
Byte strings and the little-endian reading of numbers.

A frame is a list of bytes.  `Bytes.ofNat width n` writes the `width` low bytes of
`n` with the least significant byte first, `Bytes.toNat` reads such a string back,
and the two undo each other: `toNat_ofNat` up to the bytes that were dropped, and
`ofNat_toNat` exactly.
-/

namespace WrenchLink

attribute [local instance (high)] instPowNat

abbrev Bytes := List UInt8

namespace Bytes

/-- The `width` low bytes of `n`, least significant first. -/
def ofNat : Nat → Nat → Bytes
  | 0, _ => []
  | width + 1, n => UInt8.ofNat n :: ofNat width (n / 256)

/-- The number whose bytes these are, least significant first. -/
def toNat : Bytes → Nat
  | [] => 0
  | b :: rest => b.toNat + 256 * toNat rest

/-- Whether at least `needed` bytes are there.  Only the first `needed` bytes are
looked at, so the test costs the same on a long buffer. -/
def fits (needed : Nat) (bytes : Bytes) : Bool :=
  (bytes.take needed).length == needed

/-- `bytes` with its first bytes replaced by `front`; nothing behind them moves. -/
def overwrite (front bytes : Bytes) : Bytes :=
  front ++ bytes.drop front.length

@[simp] theorem length_ofNat (width n : Nat) : (ofNat width n).length = width := by
  induction width generalizing n with
  | zero => rfl
  | succ width ih => rw [ofNat, List.length_cons, ih]

theorem toNat_ofNat (width n : Nat) : toNat (ofNat width n) = n % 256 ^ width := by
  induction width generalizing n with
  | zero => rw [ofNat, toNat, Nat.pow_zero, Nat.mod_one]
  | succ width ih =>
    have hbyte : (UInt8.ofNat n).toNat = n % 256 := UInt8.toNat_ofNat'
    rw [ofNat, toNat, ih, hbyte, Nat.pow_succ, Nat.mul_comm (256 ^ width) 256, Nat.mod_mul]

theorem toNat_lt (bytes : Bytes) : toNat bytes < 256 ^ bytes.length := by
  induction bytes with
  | nil => exact Nat.one_pos
  | cons b rest ih =>
    have hb := b.toNat_lt
    rw [toNat, List.length_cons, Nat.pow_succ]
    omega

theorem ofNat_toNat (bytes : Bytes) : ofNat bytes.length (toNat bytes) = bytes := by
  induction bytes with
  | nil => rfl
  | cons b rest ih =>
    have hb := b.toNat_lt
    have hdiv : (b.toNat + 256 * toNat rest) / 256 = toNat rest := by omega
    have hbyte : UInt8.ofNat (b.toNat + 256 * toNat rest) = b := by
      apply UInt8.toNat_inj.mp
      rw [UInt8.toNat_ofNat']
      omega
    rw [List.length_cons, toNat, ofNat, hdiv, ih, hbyte]

theorem fits_iff (needed : Nat) (bytes : Bytes) :
    fits needed bytes = true ↔ needed ≤ bytes.length := by
  rw [fits, beq_iff_eq, List.length_take]
  omega

theorem length_overwrite {front bytes : Bytes} (h : front.length ≤ bytes.length) :
    (overwrite front bytes).length = bytes.length := by
  rw [overwrite, List.length_append, List.length_drop]
  omega

end Bytes
end WrenchLink

/-
What a slot keeps of the value that is written into it.

A value's bits fit its bytes, and reading the bits back gives the value: `ofBits_toBits`.
The converse, `toBits_of_ofBits`, needs a type other than the truth values, of which any
byte but zero reads as true.  `decode_overwrite` and `overwrite_bytes_of_decode` carry both
directions over to a slot within a longer buffer.
-/
import WrenchLink.Wire.Scalar

namespace WrenchLink

attribute [local instance (high)] instPowNat

theorem bind_eq_ok_iff {ε α β : Type} {x : Except ε α} {f : α → Except ε β} {r : β} :
    x >>= f = .ok r ↔ ∃ a, x = .ok a ∧ f a = .ok r := by
  cases x with
  | error fault =>
    constructor
    · intro h
      cases h
    · rintro ⟨a, ha, -⟩
      cases ha
  | ok a =>
    constructor
    · exact fun h => ⟨a, rfl, h⟩
    · rintro ⟨_, ⟨⟩, h⟩
      exact h

theorem bind_eq_error_iff {ε α β : Type} {x : Except ε α} {f : α → Except ε β} {e : ε} :
    x >>= f = .error e ↔ x = .error e ∨ ∃ a, x = .ok a ∧ f a = .error e := by
  cases x with
  | error fault => simp [Bind.bind, Except.bind]
  | ok a => simp [Bind.bind, Except.bind]

namespace Bytes

@[simp] theorem take_overwrite (front bytes : Bytes) :
    (overwrite front bytes).take front.length = front :=
  List.take_left

theorem overwrite_of_length_le {front bytes : Bytes} (h : bytes.length ≤ front.length) :
    overwrite front bytes = front := by
  rw [overwrite, List.drop_of_length_le h, List.append_nil]

theorem drop_overwrite {front bytes : Bytes} {n : Nat} (h : front.length ≤ n) :
    (overwrite front bytes).drop n = bytes.drop n := by
  have hn : front.length + (n - front.length) = n := by omega
  rw [overwrite, List.drop_append, List.drop_of_length_le h, List.nil_append, List.drop_drop, hn]

theorem getElem?_overwrite {front bytes : Bytes} {i : Nat} (h : front.length ≤ i) :
    (overwrite front bytes)[i]? = bytes[i]? := by
  have hi : front.length + (i - front.length) = i := by omega
  rw [overwrite, List.getElem?_append_right h, List.getElem?_drop, hi]

@[simp] theorem overwrite_take (n : Nat) (bytes : Bytes) :
    overwrite (bytes.take n) bytes = bytes := by
  rw [overwrite, List.length_take]
  rcases Nat.le_total n bytes.length with h | h
  · rw [Nat.min_eq_left h, List.take_append_drop]
  · rw [Nat.min_eq_right h, List.take_of_length_le h, List.drop_length, List.append_nil]

end Bytes

namespace Scalar

theorem toBits_lt (k : Scalar) (v : k.Value) : k.toBits v < 256 ^ k.width := by
  cases k with
  | bool => cases v <;> decide
  | i8 => exact (Int8.toUInt8 v).toNat_lt
  | u8 => exact UInt8.toNat_lt v
  | i16 => exact (Int16.toUInt16 v).toNat_lt
  | u16 => exact UInt16.toNat_lt v
  | i32 => exact (Int32.toUInt32 v).toNat_lt
  | u32 => exact UInt32.toNat_lt v
  | i64 => exact (Int64.toUInt64 v).toNat_lt
  | u64 => exact UInt64.toNat_lt v
  | f32 => exact (Binary32.bits v).toNat_lt
  | f64 => exact (Binary64.bits v).toNat_lt
  | enumeration kind =>
    have hcode := kind.code_lt v
    show kind.code v < 4294967296
    omega

@[simp] theorem ofBits_toBits (k : Scalar) (v : k.Value) : k.ofBits (k.toBits v) = .ok v := by
  cases k with
  | bool => cases v <;> rfl
  | i8 => exact congrArg (fun n : UInt8 => Except.ok n.toInt8) UInt8.ofNat_toNat
  | u8 => exact congrArg Except.ok UInt8.ofNat_toNat
  | i16 => exact congrArg (fun n : UInt16 => Except.ok n.toInt16) UInt16.ofNat_toNat
  | u16 => exact congrArg Except.ok UInt16.ofNat_toNat
  | i32 => exact congrArg (fun n : UInt32 => Except.ok n.toInt32) UInt32.ofNat_toNat
  | u32 => exact congrArg Except.ok UInt32.ofNat_toNat
  | i64 => exact congrArg (fun n : UInt64 => Except.ok n.toInt64) UInt64.ofNat_toNat
  | u64 => exact congrArg Except.ok UInt64.ofNat_toNat
  | f32 => exact congrArg (fun n : UInt32 => Except.ok (Binary32.mk n)) UInt32.ofNat_toNat
  | f64 => exact congrArg (fun n : UInt64 => Except.ok (Binary64.mk n)) UInt64.ofNat_toNat
  | enumeration kind =>
    have hcode : kind.ofCode? (kind.code v) = some v := kind.ofCode?_code v
    simp only [toBits, ofBits, hcode]

/-- Reading bits loses none of them.  Truth values are left out: every byte but zero is
true. -/
theorem toBits_of_ofBits {k : Scalar} {n : Nat} {v : k.Value} (hk : k ≠ bool)
    (hn : n < 256 ^ k.width) (h : k.ofBits n = .ok v) : k.toBits v = n := by
  cases k with
  | bool => exact absurd rfl hk
  | i8 => cases h; exact UInt8.toNat_ofNat_of_lt hn
  | u8 => cases h; exact UInt8.toNat_ofNat_of_lt hn
  | i16 => cases h; exact UInt16.toNat_ofNat_of_lt hn
  | u16 => cases h; exact UInt16.toNat_ofNat_of_lt hn
  | i32 => cases h; exact UInt32.toNat_ofNat_of_lt hn
  | u32 => cases h; exact UInt32.toNat_ofNat_of_lt hn
  | i64 => cases h; exact UInt64.toNat_ofNat_of_lt hn
  | u64 => cases h; exact UInt64.toNat_ofNat_of_lt hn
  | f32 => cases h; exact UInt32.toNat_ofNat_of_lt hn
  | f64 => cases h; exact UInt64.toNat_ofNat_of_lt hn
  | enumeration kind =>
    rw [ofBits] at h
    split at h
    · rename_i u hcode
      cases h
      exact Enumeration.code_of_ofCode? hcode
    · cases h

theorem decode_eq (k : Scalar) (buffer : Bytes) :
    k.decode buffer =
      if k.advance ≤ buffer.length then k.ofBits (Bytes.toNat (buffer.take k.width))
      else .error (.bufferTooSmall k.advance buffer.length) := by
  rw [decode, requireBytes]
  by_cases h : k.advance ≤ buffer.length
  · rw [if_pos ((Bytes.fits_iff _ _).mpr h), if_pos h]
    rfl
  · rw [if_neg (fun hf => h ((Bytes.fits_iff _ _).mp hf)), if_neg h]
    rfl

/-- Reading a slot looks no further than the slot. -/
theorem decode_congr {k : Scalar} {bytes other : Bytes}
    (hlength : min k.advance bytes.length = min k.advance other.length)
    (h : bytes.take k.width = other.take k.width) : k.decode bytes = k.decode other := by
  rw [decode_eq, decode_eq]
  by_cases hfit : k.advance ≤ bytes.length
  · rw [if_pos hfit, if_pos (by omega), h]
  · have hsame : bytes.length = other.length := by omega
    rw [if_neg hfit, if_neg (by omega), hsame]

theorem length_overwrite_bytes {k : Scalar} (v : k.Value) {buffer : Bytes}
    (h : k.advance ≤ buffer.length) :
    (Bytes.overwrite (k.bytes v) buffer).length = buffer.length := by
  have hwidth := k.width_le_advance
  apply Bytes.length_overwrite
  rw [length_bytes]
  omega

/-- A slot reads as the value that was written into it. -/
theorem decode_overwrite {k : Scalar} (v : k.Value) {buffer : Bytes}
    (h : k.advance ≤ buffer.length) :
    k.decode (Bytes.overwrite (k.bytes v) buffer) = .ok v := by
  have htake := Bytes.take_overwrite (k.bytes v) buffer
  rw [length_bytes] at htake
  rw [decode_eq, length_overwrite_bytes v h, if_pos h, htake, bytes, Bytes.toNat_ofNat,
    Nat.mod_eq_of_lt (k.toBits_lt v), ofBits_toBits]

/-- A slot holds the value that it reads as: writing that value changes nothing. -/
theorem overwrite_bytes_of_decode {k : Scalar} {v : k.Value} {buffer : Bytes} (hk : k ≠ bool)
    (h : k.decode buffer = .ok v) :
    k.advance ≤ buffer.length ∧ Bytes.overwrite (k.bytes v) buffer = buffer := by
  rw [decode_eq] at h
  split at h
  · rename_i hfit
    have hwidth := k.width_le_advance
    have hlength : (buffer.take k.width).length = k.width := by
      rw [List.length_take]
      omega
    have hlt := Bytes.toNat_lt (buffer.take k.width)
    rw [hlength] at hlt
    have hfront := Bytes.ofNat_toNat (buffer.take k.width)
    rw [hlength] at hfront
    refine ⟨hfit, ?_⟩
    rw [bytes, toBits_of_ofBits hk hlt h, hfront, Bytes.overwrite_take]
  · cases h

end Scalar
end WrenchLink

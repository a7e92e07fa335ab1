/-
Scalars and their slots.

Every scalar starts a slot of four bytes, or of eight for the 64-bit types.  Only its
own bytes of the slot are written or read; the padding behind a narrow value is left
alone on writing and ignored on reading.  Room is needed for the whole slot in either
direction.
-/
import WrenchLink.Bytes
import WrenchLink.Fault
import WrenchLink.Number.Binary

namespace WrenchLink

/-- The types that fields are made of. -/
inductive Scalar where
  | bool
  | i8
  | u8
  | i16
  | u16
  | i32
  | u32
  | i64
  | u64
  | f32
  | f64
  | enumeration (kind : Enumeration)
  deriving DecidableEq, Repr

namespace Scalar

/-- The values of a type.  Floating-point values are told apart by their bits, so that
they travel unchanged whether or not they are numbers. -/
def Value : Scalar → Type
  | bool => Bool
  | i8 => Int8
  | u8 => UInt8
  | i16 => Int16
  | u16 => UInt16
  | i32 => Int32
  | u32 => UInt32
  | i64 => Int64
  | u64 => UInt64
  | f32 => Binary32
  | f64 => Binary64
  | enumeration kind => kind.Value

instance : (k : Scalar) → DecidableEq k.Value
  | bool => inferInstanceAs (DecidableEq Bool)
  | i8 => inferInstanceAs (DecidableEq Int8)
  | u8 => inferInstanceAs (DecidableEq UInt8)
  | i16 => inferInstanceAs (DecidableEq Int16)
  | u16 => inferInstanceAs (DecidableEq UInt16)
  | i32 => inferInstanceAs (DecidableEq Int32)
  | u32 => inferInstanceAs (DecidableEq UInt32)
  | i64 => inferInstanceAs (DecidableEq Int64)
  | u64 => inferInstanceAs (DecidableEq UInt64)
  | f32 => inferInstanceAs (DecidableEq Binary32)
  | f64 => inferInstanceAs (DecidableEq Binary64)
  | enumeration kind => inferInstanceAs (DecidableEq kind.Value)

def width : Scalar → Nat
  | bool | i8 | u8 => 1
  | i16 | u16 => 2
  | i32 | u32 | f32 | enumeration _ => 4
  | i64 | u64 | f64 => 8

/-- Bytes from the start of the value's slot to the next slot. -/
def advance : Scalar → Nat
  | i64 | u64 | f64 => 2 * slotSize
  | _ => slotSize

/-- The zero of each type, or its default enumerator. -/
def default : (k : Scalar) → k.Value
  | bool => false
  | i8 => (0 : Int8)
  | u8 => (0 : UInt8)
  | i16 => (0 : Int16)
  | u16 => (0 : UInt16)
  | i32 => (0 : Int32)
  | u32 => (0 : UInt32)
  | i64 => (0 : Int64)
  | u64 => (0 : UInt64)
  | f32 => (⟨0⟩ : Binary32)
  | f64 => (⟨0⟩ : Binary64)
  | enumeration kind => kind.default

/-- The value's bits as a natural number below `256 ^ width`. -/
def toBits : (k : Scalar) → k.Value → Nat
  | bool, b => Bool.toNat b
  | i8, n => (Int8.toUInt8 n).toNat
  | u8, n => UInt8.toNat n
  | i16, n => (Int16.toUInt16 n).toNat
  | u16, n => UInt16.toNat n
  | i32, n => (Int32.toUInt32 n).toNat
  | u32, n => UInt32.toNat n
  | i64, n => (Int64.toUInt64 n).toNat
  | u64, n => UInt64.toNat n
  | f32, x => (Binary32.bits x).toNat
  | f64, x => (Binary64.bits x).toNat
  | enumeration kind, v => kind.code v

/-- The value with those bits.  Any byte but zero is true; an integer that no enumerator
carries is refused with its signed value. -/
def ofBits : (k : Scalar) → Nat → Except Fault k.Value
  | bool, n => .ok (n != 0)
  | i8, n => .ok (UInt8.ofNat n).toInt8
  | u8, n => .ok (UInt8.ofNat n)
  | i16, n => .ok (UInt16.ofNat n).toInt16
  | u16, n => .ok (UInt16.ofNat n)
  | i32, n => .ok (UInt32.ofNat n).toInt32
  | u32, n => .ok (UInt32.ofNat n)
  | i64, n => .ok (UInt64.ofNat n).toInt64
  | u64, n => .ok (UInt64.ofNat n)
  | f32, n => .ok (⟨UInt32.ofNat n⟩ : Binary32)
  | f64, n => .ok (⟨UInt64.ofNat n⟩ : Binary64)
  | enumeration kind, n =>
    match kind.ofCode? n with
    | some v => .ok v
    | none => .error (.invalidEnumerator kind (UInt32.ofNat n).toInt32.toInt)

/-- The bytes of the value, least significant first. -/
def bytes (k : Scalar) (v : k.Value) : Bytes := Bytes.ofNat k.width (k.toBits v)

end Scalar

def requireBytes (needed : Nat) (buffer : Bytes) : Except Fault Unit :=
  if Bytes.fits needed buffer then .ok () else .error (.bufferTooSmall needed buffer.length)

namespace Scalar

/-- The buffer with the value written at its start. -/
def encode (k : Scalar) (v : k.Value) (buffer : Bytes) : Except Fault Bytes := do
  requireBytes k.advance buffer
  return Bytes.overwrite (k.bytes v) buffer

def decode (k : Scalar) (buffer : Bytes) : Except Fault k.Value := do
  requireBytes k.advance buffer
  k.ofBits (Bytes.toNat (buffer.take k.width))

theorem width_le_advance (k : Scalar) : k.width ≤ k.advance := by
  cases k <;> simp [width, advance, slotSize]

theorem encode_eq (k : Scalar) (v : k.Value) (buffer : Bytes) :
    k.encode v buffer =
      if k.advance ≤ buffer.length then .ok (Bytes.overwrite (k.bytes v) buffer)
      else .error (.bufferTooSmall k.advance buffer.length) := by
  rw [encode, requireBytes]
  by_cases h : k.advance ≤ buffer.length
  · rw [if_pos ((Bytes.fits_iff _ _).mpr h), if_pos h]
    rfl
  · rw [if_neg (fun hf => h ((Bytes.fits_iff _ _).mp hf)), if_neg h]
    rfl

@[simp] theorem length_bytes (k : Scalar) (v : k.Value) : (k.bytes v).length = k.width :=
  Bytes.length_ofNat _ _

end Scalar
end WrenchLink

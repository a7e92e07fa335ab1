/-
IPv4 addresses, their dotted-quad text, and the endpoints built on them.

The text of an address is canonical: four decimal octets without leading zeros,
signs or blanks, separated by single dots.  `Address.parse?` accepts exactly the
texts that `Address.toString` writes.
-/
import WrenchLink.Text.Split

namespace WrenchLink

structure Address where
  a : UInt8
  b : UInt8
  c : UInt8
  d : UInt8
  deriving DecidableEq, Repr, Inhabited

namespace Address

/-- The 32-bit value of the address, first octet most significant: 192.168.1.1 is
`0xC0A80101`. -/
def toWord (x : Address) : UInt32 :=
  UInt32.ofNat (((x.a.toNat * 256 + x.b.toNat) * 256 + x.c.toNat) * 256 + x.d.toNat)

def ofWord (w : UInt32) : Address :=
  ⟨UInt8.ofNat (w.toNat / 16777216), UInt8.ofNat (w.toNat / 65536),
    UInt8.ofNat (w.toNat / 256), UInt8.ofNat w.toNat⟩

protected def toString (x : Address) : String :=
  ".".intercalate [toString x.a.toNat, toString x.b.toNat, toString x.c.toNat, toString x.d.toNat]

/-- One octet: one to three digits of value at most 255, with no zero in front of
another digit. -/
def octet? (piece : List Char) : Option UInt8 :=
  match piece.mapM (Text.digit? 10) with
  | none => none
  | some digits =>
    if digits = [] ∨ 3 < digits.length ∨ (1 < digits.length ∧ digits.head? = some 0) ∨
        255 < Text.digitsValue 10 digits then
      none
    else
      some (UInt8.ofNat (Text.digitsValue 10 digits))

def parse? (text : String) : Option Address :=
  match Text.split '.' text.toList with
  | [a, b, c, d] => do
    let a ← octet? a
    let b ← octet? b
    let c ← octet? c
    let d ← octet? d
    return ⟨a, b, c, d⟩
  | _ => none

theorem toNat_toWord (x : Address) :
    x.toWord.toNat = ((x.a.toNat * 256 + x.b.toNat) * 256 + x.c.toNat) * 256 + x.d.toNat := by
  have ha := x.a.toNat_lt
  have hb := x.b.toNat_lt
  have hc := x.c.toNat_lt
  have hd := x.d.toNat_lt
  rw [toWord, UInt32.toNat_ofNat']
  omega

@[simp] theorem toWord_ofWord (w : UInt32) : (ofWord w).toWord = w := by
  have hw := w.toNat_lt
  apply UInt32.toNat_inj.mp
  rw [toWord, ofWord, UInt32.toNat_ofNat']
  simp only [UInt8.toNat_ofNat']
  omega

@[simp] theorem ofWord_toWord (x : Address) : ofWord x.toWord = x := by
  obtain ⟨a, b, c, d⟩ := x
  have ha := a.toNat_lt
  have hb := b.toNat_lt
  have hc := c.toNat_lt
  have hd := d.toNat_lt
  simp only [toWord, ofWord, UInt32.toNat_ofNat', Address.mk.injEq]
  refine ⟨?_, ?_, ?_, ?_⟩ <;> apply UInt8.toNat_inj.mp <;> rw [UInt8.toNat_ofNat'] <;> omega

end Address

instance : ToString Address := ⟨Address.toString⟩

structure Endpoint where
  address : Address
  port : UInt16
  deriving DecidableEq, Repr, Inhabited

namespace Endpoint

protected def toString (e : Endpoint) : String :=
  e.address.toString ++ ":" ++ toString e.port.toNat

end Endpoint

instance : ToString Endpoint := ⟨Endpoint.toString⟩

end WrenchLink

/-
The frame header: one little-endian 32-bit word in front of every frame.

Bits 31 to 20 carry the message id, bits 19 to 16 the encoding version and bits 15 to 0
the length of the whole frame, header included.
-/
import WrenchLink.Wire.Scalar

namespace WrenchLink

attribute [local instance (high)] instPowNat

structure Header where
  /-- Only the low twelve bits travel. -/
  id : UInt16
  /-- Length of the frame in bytes. -/
  size : UInt16
  /-- Only the low four bits travel. -/
  encoding : UInt8
  deriving DecidableEq, Repr, Inhabited

namespace Header

/-- The header of no frame: every field zero. -/
def empty : Header := ⟨0, 0, 0⟩

/-- The packed word.  A field wider than its bits is cut to them, so that it never spills
into its neighbour. -/
def word (h : Header) : Nat :=
  (h.id.toNat % 4096) * 1048576 + (h.encoding.toNat % 16) * 65536 + h.size.toNat

def ofWord (n : Nat) : Header :=
  { id := UInt16.ofNat (n / 1048576 % 4096)
    size := UInt16.ofNat (n % 65536)
    encoding := UInt8.ofNat (n / 65536 % 16) }

def pack (h : Header) : Bytes := Bytes.ofNat headerSize h.word

def decode (buffer : Bytes) : Except Fault Header := do
  requireBytes headerSize buffer
  return ofWord (Bytes.toNat (buffer.take headerSize))

def idMatches (actual expected : UInt16) : Bool := actual == expected

@[simp] theorem length_pack (h : Header) : h.pack.length = headerSize := Bytes.length_ofNat _ _

theorem word_lt (h : Header) : h.word < 256 ^ headerSize := by
  have hs := h.size.toNat_lt
  show _ < 4294967296
  rw [word]
  omega

theorem ofWord_word (h : Header) :
    ofWord h.word =
      ⟨UInt16.ofNat (h.id.toNat % 4096), h.size, UInt8.ofNat (h.encoding.toNat % 16)⟩ := by
  have hs := h.size.toNat_lt
  simp only [ofWord, word, mk.injEq]
  refine ⟨?_, ?_, ?_⟩
  · congr 1
    omega
  · apply UInt16.toNat_inj.mp
    rw [UInt16.toNat_ofNat']
    omega
  · congr 1
    omega

theorem word_ofWord {n : Nat} (h : n < 256 ^ headerSize) : (ofWord n).word = n := by
  have hn : n < 4294967296 := h
  simp only [ofWord, word, UInt16.toNat_ofNat', UInt8.toNat_ofNat']
  omega

end Header
end WrenchLink

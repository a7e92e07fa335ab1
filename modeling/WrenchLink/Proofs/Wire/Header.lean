/-
The header as the leading word of a frame.

Packing gives every bit of the word to one field, so a field that is wider than its bits loses
its upper ones and leaves its neighbours alone: `testBit_word`.  Reading splits the word into
three fields and packing puts them together again, so each undoes the other:
`decode_pack_append` up to the bits that do not travel, `decode_pack` for a header whose fields
fit theirs, and `pack_ofWord` for every word.
-/
import WrenchLink.Wire.Cursor
import WrenchLink.Proofs.Wire.Slot

namespace WrenchLink

attribute [local instance (high)] instPowNat

def Bytes.leadingWord (bytes : Bytes) : Nat := toNat (bytes.take headerSize)

theorem Bytes.leadingWord_lt (bytes : Bytes) : bytes.leadingWord < 4294967296 := by
  have hlt := toNat_lt (bytes.take headerSize)
  have hlength : (bytes.take headerSize).length ≤ headerSize := by
    rw [List.length_take]
    omega
  exact Nat.lt_of_lt_of_le hlt (Nat.pow_le_pow_right (by omega) hlength)

namespace Header

/-- Every field fits the bits that it travels in. -/
structure Fits (h : Header) : Prop where
  id : h.id.toNat < 4096
  encoding : h.encoding.toNat < 16

/-- What travels of a header: every field cut to its bits. -/
def cut (h : Header) : Header := ⟨h.id % 4096, h.size, h.encoding % 16⟩

theorem cut_of_fits {h : Header} (hfits : h.Fits) : h.cut = h := by
  have hid : h.id % 4096 = h.id := UInt16.mod_eq_of_lt hfits.id
  have hencoding : h.encoding % 16 = h.encoding := UInt8.mod_eq_of_lt hfits.encoding
  rw [cut, hid, hencoding]

/-- Which field each bit of the word comes from. -/
theorem testBit_word (h : Header) (i : Nat) :
    h.word.testBit i =
      if i < 16 then h.size.toNat.testBit i
      else if i < 20 then h.encoding.toNat.testBit (i - 16)
      else if i < 32 then h.id.toNat.testBit (i - 20)
      else false := by
  have hsize : h.size.toNat < 2 ^ 16 := h.size.toNat_lt
  have hencoding : h.encoding.toNat % 2 ^ 4 < 2 ^ 4 := Nat.mod_lt _ (by decide)
  -- The word in two steps, so that it splits at bit 16 and what is above it at bit 20.
  have hword : h.word =
      2 ^ 16 * (2 ^ 4 * (h.id.toNat % 2 ^ 12) + h.encoding.toNat % 2 ^ 4) + h.size.toNat := by
    rw [word]
    omega
  rw [hword, Nat.testBit_two_pow_mul_add _ hsize, Nat.testBit_two_pow_mul_add _ hencoding,
    Nat.testBit_mod_two_pow, Nat.testBit_mod_two_pow]
  by_cases hlow : i < 16
  · rw [if_pos hlow, if_pos hlow]
  rw [if_neg hlow, if_neg hlow]
  by_cases hmiddle : i < 20
  · have hnibble : i - 16 < 4 := by omega
    rw [if_pos hnibble, if_pos hmiddle, decide_eq_true hnibble, Bool.true_and]
  · have habove : ¬ i - 16 < 4 := by omega
    have hindex : i - 16 - 4 = i - 20 := by omega
    rw [if_neg habove, if_neg hmiddle, hindex]
    by_cases htop : i < 32
    · rw [if_pos htop, decide_eq_true (by omega), Bool.true_and]
    · rw [if_neg htop, decide_eq_false (by omega), Bool.false_and]

theorem decode_eq (buffer : Bytes) :
    decode buffer =
      if headerSize ≤ buffer.length then .ok (ofWord buffer.leadingWord)
      else .error (.bufferTooSmall headerSize buffer.length) := by
  rw [decode, requireBytes]
  by_cases h : headerSize ≤ buffer.length
  · rw [if_pos ((Bytes.fits_iff _ _).mpr h), if_pos h]
    rfl
  · rw [if_neg (fun hf => h ((Bytes.fits_iff _ _).mp hf)), if_neg h]
    rfl

theorem toNat_id_ofWord {n : Nat} (h : n < 4294967296) : (ofWord n).id.toNat = n / 1048576 := by
  rw [ofWord, UInt16.toNat_ofNat']
  omega

theorem toNat_pack (h : Header) : Bytes.toNat h.pack = h.word := by
  rw [pack, Bytes.toNat_ofNat, Nat.mod_eq_of_lt h.word_lt]

theorem leadingWord_pack (h : Header) (rest : Bytes) : (h.pack ++ rest).leadingWord = h.word := by
  rw [Bytes.leadingWord, ← h.length_pack, List.take_left, toNat_pack]

theorem ofWord_word_eq_cut (h : Header) : ofWord h.word = h.cut := by
  have hid : UInt16.ofNat (h.id.toNat % 4096) = h.id % 4096 := by
    apply UInt16.toNat_inj.mp
    rw [UInt16.toNat_mod, UInt16.toNat_ofNat']
    exact Nat.mod_eq_of_lt (by omega)
  have hencoding : UInt8.ofNat (h.encoding.toNat % 16) = h.encoding % 16 := by
    apply UInt8.toNat_inj.mp
    rw [UInt8.toNat_mod, UInt8.toNat_ofNat']
    exact Nat.mod_eq_of_lt (by omega)
  rw [ofWord_word, hid, hencoding, cut]

theorem ofWord_word_of_fits {h : Header} (hfits : h.Fits) : ofWord h.word = h := by
  rw [ofWord_word_eq_cut, cut_of_fits hfits]

/-- A packed header reads as what travels of it, whatever follows. -/
theorem decode_pack_append (h : Header) (rest : Bytes) : decode (h.pack ++ rest) = .ok h.cut := by
  have hlength : headerSize ≤ (h.pack ++ rest).length := by
    rw [List.length_append, length_pack]
    omega
  rw [decode_eq, if_pos hlength, leadingWord_pack, ofWord_word_eq_cut]

/-- A packed header whose fields fit reads as itself, whatever follows it. -/
theorem decode_pack {h : Header} (hfits : h.Fits) (rest : Bytes) :
    decode (h.pack ++ rest) = .ok h := by
  rw [decode_pack_append, cut_of_fits hfits]

/-- Packing what was read gives the bytes back. -/
theorem pack_ofWord {bytes : Bytes} (h : headerSize ≤ bytes.length) :
    (ofWord bytes.leadingWord).pack = bytes.take headerSize := by
  have hlength : (bytes.take headerSize).length = headerSize := by
    rw [List.length_take]
    omega
  have hword := word_ofWord bytes.leadingWord_lt
  have hbytes := Bytes.ofNat_toNat (bytes.take headerSize)
  rw [hlength] at hbytes
  rw [pack, hword, Bytes.leadingWord, hbytes]

/-! ## Packing over four bytes and reading from a longer buffer -/

/-- Packing leaves nothing of what stood in the four bytes. -/
theorem overwrite_pack (h : Header) (previous : Vector UInt8 headerSize) :
    Bytes.overwrite h.pack previous.toList = h.pack :=
  Bytes.overwrite_of_length_le (Nat.le_of_eq (previous.length_toList.trans h.length_pack.symm))

theorem header_of_pack_append (h : Header) (rest : Bytes) :
    (Reader.start (h.pack ++ rest)).header = .ok (h.cut, ⟨headerSize, rest⟩) := by
  have hmove : (Reader.start (h.pack ++ rest)).moveOver headerSize = ⟨headerSize, rest⟩ := by
    rw [Reader.moveOver, Reader.start, List.drop_left' h.length_pack, Nat.zero_add]
  rw [← hmove]
  exact bind_eq_ok_iff.mpr ⟨h.cut, decode_pack_append h rest, rfl⟩

/-- The low 16 bits of a packed header are those of the size, the next four those of the encoding
and the upper twelve those of the id, so a field that is wider than its bits reaches no other.
A header that is packed over any four bytes, with any others behind them, reads back cut to its
bits, and reading stops behind the four.  What is read from four bytes or more packs to the first
four of them. -/
theorem pack_and_decode_undo_each_other :
    (∀ (h : Header) (i : Nat),
      (Bytes.toNat h.pack).testBit i =
        if i < 16 then h.size.toNat.testBit i
        else if i < 20 then h.encoding.toNat.testBit (i - 16)
        else if i < 32 then h.id.toNat.testBit (i - 20)
        else false) ∧
    (∀ (h : Header) (previous : Vector UInt8 headerSize) (rest : Bytes),
      let packed := Bytes.overwrite h.pack previous.toList
      let carried : Header := ⟨h.id % 4096, h.size, h.encoding % 16⟩
      packed.length = headerSize ∧
      decode (packed ++ rest) = .ok carried ∧
      (Reader.start (packed ++ rest)).header = .ok (carried, ⟨headerSize, rest⟩)) ∧
    ∀ bytes : Bytes, headerSize ≤ bytes.length →
      ∃ h, decode bytes = .ok h ∧
        ∀ previous : Vector UInt8 headerSize,
          Bytes.overwrite h.pack previous.toList = bytes.take headerSize := by
  refine ⟨?_, ?_, ?_⟩
  · intro h i
    rw [toNat_pack, testBit_word]
  · intro h previous rest packed carried
    have hpacked : packed = h.pack := h.overwrite_pack previous
    rw [hpacked]
    exact ⟨h.length_pack, decode_pack_append h rest, header_of_pack_append h rest⟩
  · intro bytes hlength
    refine ⟨ofWord bytes.leadingWord, ?_, fun previous => ?_⟩
    · rw [decode_eq, if_pos hlength]
    · rw [overwrite_pack, pack_ofWord hlength]

/-- Bit 12 of the id and bit 5 of the encoding do not travel. -/
example : pack ⟨0x1001, 8, 0x21⟩ = [8, 0, 0x11, 0] := by decide

end Header
end WrenchLink

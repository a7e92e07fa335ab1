/-
Writing a message into a buffer that is too short for it.

The fields are written as long as their slots fit, and the header, which comes last, is not
written at all: `encode_of_short`.  What is left behind is the buffer with the first fields
written over it, `Values.writeFirst`, so the bytes of these fields are those of the whole frame
and all others are the buffer's own: `encode_stops_at_slot`.
-/
import WrenchLink.Proofs.Message.Frame

namespace WrenchLink

/-- The first `n` fields carry the bytes of the whole list that lie in their slots. -/
theorem Field.carries_take {fields : List Field} (h : ∀ f ∈ fields, f.kind.advance = slotSize)
    (n i : Nat) :
    carries (fields.take n) i = (decide (i < slotSize * n) && carries fields i) := by
  have hslot : i / slotSize < n ↔ i < slotSize * n := by
    rw [Nat.div_lt_iff_lt_mul (by decide), Nat.mul_comm]
  rw [carries_of_advance fun f hf => h f (List.mem_of_mem_take hf), carries_of_advance h,
    List.getElem?_take]
  by_cases hi : i < slotSize * n
  · rw [if_pos (hslot.mpr hi), decide_eq_true hi, Bool.true_and]
  · rw [if_neg (fun hlt => hi (hslot.mp hlt)), decide_eq_false hi, Bool.false_and, Option.any_none]

namespace Values

open WrenchLink.Field

/-- The values of the first `n` fields. -/
def take : (n : Nat) → (fields : List Field) → Values fields → Values (fields.take n)
  | 0, _, _ => ()
  | _ + 1, [], () => ()
  | n + 1, _ :: rest, (v, more) => (v, take n rest more)

/-- The bytes with the first `n` values written over their fields' slots. -/
def writeFirst (n : Nat) (fields : List Field) (values : Values fields) (ahead : Bytes) : Bytes :=
  write (fields.take n) (take n fields values) ahead

theorem writeFirst_succ (n : Nat) {f : Field} {rest : List Field} (v : f.kind.Value)
    (more : Values rest) (ahead : Bytes) :
    writeFirst (n + 1) (f :: rest) (v, more) ahead =
      (Bytes.overwrite (f.kind.bytes v) ahead).take f.kind.advance ++
        writeFirst n rest more (ahead.drop f.kind.advance) := rfl

/-- In the slots of the first values it makes no difference whether the others are written. -/
theorem getElem?_writeFirst {fields : List Field} (values : Values fields) {n : Nat}
    {ahead : Bytes} (h : span fields ≤ ahead.length) {i : Nat} (hi : i < span (fields.take n)) :
    (writeFirst n fields values ahead)[i]? = (write fields values ahead)[i]? := by
  induction fields generalizing n ahead i with
  | nil =>
    rw [List.take_nil] at hi
    exact absurd hi (Nat.not_lt_zero i)
  | cons f rest ih =>
    obtain ⟨v, more⟩ := values
    cases n with
    | zero => exact absurd hi (Nat.not_lt_zero i)
    | succ n =>
      rw [span] at h
      rw [List.take_succ_cons, span] at hi
      have hadvance : f.kind.advance ≤ ahead.length := by omega
      have hhead := length_head (f := f) v hadvance
      have hrest : span rest ≤ (ahead.drop f.kind.advance).length := by
        rw [List.length_drop]
        omega
      rw [writeFirst_succ, write]
      by_cases hslot : i < f.kind.advance
      · rw [List.getElem?_append_left (by omega), List.getElem?_append_left (by omega)]
      · rw [List.getElem?_append_right (by omega), List.getElem?_append_right (by omega), hhead]
        exact ih more hrest (by omega)

end Values

namespace Writer

open WrenchLink.Field

/-- Without room for all the fields those whose slots fit are written. -/
theorem putFields_of_short {fields : List Field}
    (hadvance : ∀ f ∈ fields, f.kind.advance = slotSize) (values : Values fields) (w : Writer)
    (h : w.ahead.length < span fields) :
    w.putFields fields values =
      (.error (.bufferTooSmall slotSize (w.ahead.length % slotSize)),
        w.moveOver (slotSize * (w.ahead.length / slotSize))
          (Values.writeFirst (w.ahead.length / slotSize) fields values w.ahead)) := by
  induction fields generalizing w with
  | nil => exact absurd h (Nat.not_lt_zero _)
  | cons f rest ih =>
    obtain ⟨v, more⟩ := values
    have hslot := hadvance f List.mem_cons_self
    rw [span, hslot] at h
    rw [putFields, put_eq, hslot]
    by_cases hfit : slotSize ≤ w.ahead.length
    · -- The first value is written, and the others meet the buffer behind its slot.
      have hbytes : (f.kind.bytes v).length ≤ slotSize := by
        rw [Scalar.length_bytes, ← hslot]
        exact f.kind.width_le_advance
      have hlength := Bytes.length_overwrite (Nat.le_trans hbytes hfit)
      have hahead : (w.moveOver slotSize (Bytes.overwrite (f.kind.bytes v) w.ahead)).ahead =
          w.ahead.drop slotSize := Bytes.drop_overwrite hbytes
      have hrest : (w.ahead.drop slotSize).length = w.ahead.length - slotSize := List.length_drop
      have hmod : (w.ahead.length - slotSize) % slotSize = w.ahead.length % slotSize :=
        (Nat.mod_eq_sub_mod hfit).symm
      have hdiv : w.ahead.length / slotSize = (w.ahead.length - slotSize) / slotSize + 1 :=
        Nat.div_eq_sub_div (by decide) hfit
      have hlater := ih (fun g hg => hadvance g (List.mem_cons_of_mem f hg)) more
        (w.moveOver slotSize (Bytes.overwrite (f.kind.bytes v) w.ahead))
        (by rw [hahead, hrest]; omega)
      rw [hahead, hrest, hmod, moveOver_moveOver w (by omega)] at hlater
      rw [if_pos hfit, hdiv, Nat.mul_succ, Nat.add_comm, Values.writeFirst_succ, hslot]
      exact hlater
    · have hnone : w.ahead.length / slotSize = 0 := Nat.div_eq_of_lt (Nat.lt_of_not_le hfit)
      have hall : w.ahead.length % slotSize = w.ahead.length :=
        Nat.mod_eq_of_lt (Nat.lt_of_not_le hfit)
      rw [if_neg hfit, hnone, hall]
      rfl

end Writer

namespace Message

/-- How many fields' slots fit a buffer behind the header. -/
def slotsIn (buffer : Bytes) : Nat := buffer.length / slotSize - 1

/-- Without room for the frame, writing fails at the first slot that does not fit, and gives
the first fields over what was there. -/
theorem encode_of_short (m : Message) {buffer : Bytes} (h : buffer.length < frameLength m.id) :
    m.encode buffer =
      (.error (.bufferTooSmall slotSize (buffer.length % slotSize)),
        buffer.take headerSize ++
          Values.writeFirst (slotsIn buffer) m.id.fields m.values (buffer.drop headerSize)) := by
  have hlength := frameLength_eq m.id
  have hdrop : (buffer.drop headerSize).length = buffer.length - headerSize := List.length_drop
  by_cases hheader : headerSize ≤ buffer.length
  · let w := (Writer.start buffer).moveOver headerSize buffer
    have hreserve : (Writer.start buffer).reserveHeader = .ok w := by
      rw [Writer.reserveHeader_eq]
      exact if_pos hheader
    have hmod : (buffer.length - headerSize) % slotSize = buffer.length % slotSize :=
      (Nat.mod_eq_sub_mod hheader).symm
    have hslots : (buffer.length - headerSize) / slotSize = slotsIn buffer := by
      simp only [slotsIn, headerSize, slotSize]
      omega
    have hahead : w.ahead = buffer.drop headerSize := rfl
    have hput := Writer.putFields_of_short m.id.advance_of_mem_fields m.values w
      (by rw [hahead, hdrop]; omega)
    rw [hahead, hdrop, hmod, hslots, Writer.moveOver_moveOver _ hheader] at hput
    simp only [encode, hreserve, hput]
    exact congrArg (Prod.mk _) (Writer.buffer_moveOver _ _ _)
  · have hreserve : (Writer.start buffer).reserveHeader =
        .error (.bufferTooSmall headerSize buffer.length) := by
      rw [Writer.reserveHeader_eq]
      exact if_neg hheader
    have hshort : buffer.length < slotSize := Nat.lt_of_not_le hheader
    have hnone : slotsIn buffer = 0 := by
      rw [slotsIn, Nat.div_eq_of_lt hshort]
    rw [Nat.mod_eq_of_lt hshort, hnone]
    simp only [encode, hreserve]
    exact congrArg (Prod.mk _) (List.take_append_drop headerSize buffer).symm

section Short

variable {m : Message} {buffer : Bytes} (h : buffer.length < frameLength m.id)
include h

theorem span_slotsIn :
    Field.span (m.id.fields.take (slotsIn buffer)) = slotSize * slotsIn buffer ∧
      slotSize * slotsIn buffer ≤ (buffer.drop headerSize).length := by
  have hslots : slotsIn buffer ≤ m.id.fields.length := by
    simp only [frameLength, slotsIn, headerSize, slotSize] at h ⊢
    omega
  constructor
  · rw [Field.span_of_advance fun f hf => m.id.advance_of_mem_fields f (List.mem_of_mem_take hf),
      List.length_take, Nat.min_eq_left hslots]
  · simp only [List.length_drop, slotsIn, headerSize, slotSize]
    omega

theorem length_writeFirst_slotsIn :
    (Values.writeFirst (slotsIn buffer) m.id.fields m.values (buffer.drop headerSize)).length =
      (buffer.drop headerSize).length := by
  obtain ⟨hspan, hfits⟩ := span_slotsIn h
  exact Values.length_write _ (by omega)

theorem take_encode_of_short :
    (m.encode buffer).2.take headerSize = buffer.take headerSize := by
  rw [encode_of_short m h]
  by_cases hheader : headerSize ≤ buffer.length
  · exact List.take_left' (by rw [List.length_take, Nat.min_eq_left hheader])
  · have hnothing : (buffer.drop headerSize).length = 0 := by
      rw [List.length_drop]
      omega
    have hnone := List.eq_nil_of_length_eq_zero ((length_writeFirst_slotsIn h).trans hnothing)
    rw [hnone, List.append_nil, List.take_take, Nat.min_self]

theorem getElem?_encode_of_short {p : Nat} (hp : headerSize ≤ p) :
    (m.encode buffer).2[p]? =
      (Values.writeFirst (slotsIn buffer) m.id.fields m.values
        (buffer.drop headerSize))[p - headerSize]? := by
  have hlength := length_writeFirst_slotsIn h
  have hdrop : (buffer.drop headerSize).length = buffer.length - headerSize := List.length_drop
  have htake : (buffer.take headerSize).length = min headerSize buffer.length := List.length_take
  rw [encode_of_short m h, List.getElem?_append_right (by omega), htake]
  by_cases hheader : headerSize ≤ buffer.length
  · rw [Nat.min_eq_left hheader]
  · rw [List.getElem?_eq_none (by omega), List.getElem?_eq_none (by omega)]

/-- Padding and what lies behind the first fields is left alone. -/
theorem getElem?_encode_of_short_of_kept {p : Nat} (hp : headerSize ≤ p)
    (hkept : headerSize + slotSize * slotsIn buffer ≤ p ∨ isPadding m.id p = true) :
    (m.encode buffer).2[p]? = buffer[p]? := by
  obtain ⟨hspan, hfits⟩ := span_slotsIn h
  have hcarries : Field.carries (m.id.fields.take (slotsIn buffer)) (p - headerSize) = false := by
    rw [Field.carries_take m.id.advance_of_mem_fields, carries_eq m.id hp]
    rcases hkept with hkept | hkept
    · rw [decide_eq_false (by omega), Bool.false_and]
    · rw [hkept, Bool.not_true, Bool.and_false, Bool.and_false]
  have hindex : headerSize + (p - headerSize) = p := by omega
  rw [getElem?_encode_of_short h hp, Values.writeFirst,
    Values.getElem?_write_of_not_carries _ (by omega) hcarries, List.getElem?_drop, hindex]

/-- The bytes of the first fields are those of the whole frame, wherever that is written. -/
theorem getElem?_encode_of_short_of_written {roomy : Bytes}
    (hroomy : frameLength m.id ≤ roomy.length) {p : Nat} (hp : headerSize ≤ p)
    (hwritten : p < headerSize + slotSize * slotsIn buffer) (hpadding : isPadding m.id p = false) :
    (m.encode buffer).2[p]? = (m.encode roomy).2[p]? := by
  obtain ⟨hspan, hfits⟩ := span_slotsIn h
  have hlength := frameLength_eq m.id
  have hdrop : (buffer.drop headerSize).length = buffer.length - headerSize := List.length_drop
  have hroom : (roomy.drop headerSize).length = roomy.length - headerSize := List.length_drop
  have hcarries : Field.carries (m.id.fields.take (slotsIn buffer)) (p - headerSize) = true := by
    rw [Field.carries_take m.id.advance_of_mem_fields, carries_eq m.id hp, hpadding,
      decide_eq_true (by omega), decide_eq_true (by omega)]
    rfl
  have hfirst : p - headerSize < Field.span (m.id.fields.take (slotsIn buffer)) := by omega
  rw [getElem?_encode_of_short h hp, getElem?_encode m hroomy hp,
    ← Values.getElem?_writeFirst m.values (by omega) hfirst]
  exact Values.getElem?_write_of_carries _ (by omega) (by omega) hcarries

end Short

/-- Writing fails exactly for want of room, and names the four bytes that the slot at which it
stops needs and those that the buffer has left there.  Then the header's slot is untouched, the
fields in front of that slot are written as they are in any buffer that takes the whole frame,
and padding and everything from that slot on keep their bytes. -/
theorem encode_stops_at_slot (m : Message) (buffer : Bytes) :
    ((∃ fault, (m.encode buffer).1 = .error fault) ↔ buffer.length < frameLength m.id) ∧
    (buffer.length < frameLength m.id →
      let written := (m.encode buffer).2
      let stop := headerSize + slotSize * (buffer.length / slotSize - 1)
      (m.encode buffer).1 = .error (.bufferTooSmall 4 (buffer.length % 4)) ∧
      written.length = buffer.length ∧
      written.take headerSize = buffer.take headerSize ∧
      (∀ roomy : Bytes, frameLength m.id ≤ roomy.length → ∀ p, headerSize ≤ p → p < stop →
        isPadding m.id p = false → written[p]? = (m.encode roomy).2[p]?) ∧
      ∀ p, stop ≤ p ∨ isPadding m.id p = true → written[p]? = buffer[p]?) := by
  refine ⟨⟨fun hfails => ?_, fun h => ?_⟩, fun h => ⟨?_, m.length_encode buffer,
    take_encode_of_short h, ?_, ?_⟩⟩
  · obtain ⟨fault, hfault⟩ := hfails
    by_cases hroom : frameLength m.id ≤ buffer.length
    · rw [encode_eq m hroom] at hfault
      cases hfault
    · omega
  · exact ⟨_, congrArg Prod.fst (encode_of_short m h)⟩
  · exact congrArg Prod.fst (encode_of_short m h)
  · intro roomy hroomy p hp hstop hpadding
    exact getElem?_encode_of_short_of_written h hroomy hp hstop hpadding
  · intro p hp
    have hheader : headerSize ≤ p := by
      rcases hp with hp | hp
      · omega
      · exact headerSize_le_of_isPadding hp
    exact getElem?_encode_of_short_of_kept h hheader hp

/-- Two octets of a hardware address fit, and the header's slot stays as it was. -/
example :
    encode ⟨.setMacAddress, ((1 : UInt8), (2 : UInt8), (3 : UInt8), (4 : UInt8), (5 : UInt8),
        (6 : UInt8), (0 : UInt8), (0 : UInt8), ())⟩ (List.replicate 14 0xaa) =
      (.error (.bufferTooSmall 4 2),
        [0xaa, 0xaa, 0xaa, 0xaa, 1, 0xaa, 0xaa, 0xaa, 2, 0xaa, 0xaa, 0xaa, 0xaa, 0xaa]) := rfl

end Message
end WrenchLink

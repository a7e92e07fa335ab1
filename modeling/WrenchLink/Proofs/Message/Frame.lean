/-
Writing and reading whole frames, as equations.

A frame is a packed header followed by the fields: `encode_eq` for a buffer that is long
enough, and `decode_of_number`, `decode_of_no_number` and `decode_of_short` for any bytes.
The slots of the catalog are all of four bytes, and only octets leave part of theirs unused,
so the bytes of a frame are those of its header, of its values and padding: `carries_eq`.
-/
import WrenchLink.Proofs.Message.Layout
import WrenchLink.Proofs.Wire.Cursor

namespace WrenchLink
namespace MessageId

theorem advance_of_mem_fields (id : MessageId) :
    ∀ f ∈ id.fields, f.kind.advance = slotSize := by
  cases id <;> decide

theorem ne_bool_of_mem_fields (id : MessageId) : ∀ f ∈ id.fields, f.kind ≠ .bool := by
  cases id <;> decide

/-- Octets are the only narrow fields. -/
theorem width_of_mem_fields (id : MessageId) :
    ∀ f ∈ id.fields, f.kind.width = if f.kind = .u8 then 1 else slotSize := by
  cases id <;> decide

/-- Hardware addresses are the only messages with octets. -/
theorem no_octets {id : MessageId} (hset : id ≠ .setMacAddress) (hget : id ≠ .replyGetMacAddress) :
    ∀ f ∈ id.fields, f.kind ≠ .u8 := by
  cases id with
  | setMacAddress => exact absurd rfl hset
  | replyGetMacAddress => exact absurd rfl hget
  | _ => decide

end MessageId

/-- Among slots of four bytes, byte `i` is byte `i % 4` of slot `i / 4`. -/
theorem Field.carries_of_advance {fields : List Field}
    (h : ∀ f ∈ fields, f.kind.advance = slotSize) (i : Nat) :
    carries fields i = (fields[i / slotSize]?).any fun f => i % slotSize < f.kind.width := by
  induction fields generalizing i with
  | nil => rfl
  | cons f rest ih =>
    rw [carries, h f List.mem_cons_self]
    by_cases hi : i < slotSize
    · have hzero : i / slotSize = 0 := Nat.div_eq_of_lt hi
      have hmod : i % slotSize = i := Nat.mod_eq_of_lt hi
      rw [if_pos hi, hzero, hmod, List.getElem?_cons_zero, Option.any_some]
    · have hdiv : i / slotSize = (i - slotSize) / slotSize + 1 :=
        Nat.div_eq_sub_div (by decide) (Nat.le_of_not_lt hi)
      have hmod : i % slotSize = (i - slotSize) % slotSize :=
        Nat.mod_eq_sub_mod (Nat.le_of_not_lt hi)
      rw [if_neg hi, ih fun g hg => h g (List.mem_cons_of_mem f hg), hdiv, hmod,
        List.getElem?_cons_succ]

namespace Message

/-- Whether position `p` of a frame lies behind the octet in an octet's slot. -/
def isPadding (id : MessageId) (p : Nat) : Bool :=
  headerSize ≤ p && p % slotSize != 0 && (id.fields[p / slotSize - 1]?).any (·.kind == .u8)

theorem headerSize_le_of_isPadding {id : MessageId} {p : Nat} (h : isPadding id p = true) :
    headerSize ≤ p := by
  rw [isPadding, Bool.and_eq_true, Bool.and_eq_true] at h
  exact of_decide_eq_true h.1.1

def frameHeader (id : MessageId) : Header :=
  ⟨UInt16.ofNat id.number, UInt16.ofNat (frameLength id), encodingVersion⟩

theorem frameLength_eq (id : MessageId) : frameLength id = headerSize + Field.span id.fields := by
  rw [frameLength, Field.span_of_advance id.advance_of_mem_fields]

theorem frameLength_le (id : MessageId) : frameLength id ≤ 52 := by
  cases id <;> decide

theorem frameLength_pos (id : MessageId) : 0 < frameLength id :=
  Nat.lt_of_lt_of_le (by decide) (Nat.le_add_right headerSize _)

/-- Behind the header, position `p` lies in slot `p / 4 - 1`. -/
theorem lt_frameLength_iff (id : MessageId) {p : Nat} (hp : headerSize ≤ p) :
    p < frameLength id ↔ p / slotSize - 1 < id.fields.length := by
  simp only [frameLength, headerSize, slotSize] at hp ⊢
  omega

@[simp] theorem toNat_frameHeader_id (id : MessageId) : (frameHeader id).id.toNat = id.number :=
  id.toNat_ofNat_number

@[simp] theorem toNat_frameHeader_size (id : MessageId) :
    (frameHeader id).size.toNat = frameLength id := by
  have hle := frameLength_le id
  rw [frameHeader, UInt16.toNat_ofNat']
  omega

theorem fits_frameHeader (id : MessageId) : (frameHeader id).Fits := Header.fits_of_number id _

/-- Behind its header a frame holds values and padding. -/
theorem carries_eq (id : MessageId) {p : Nat} (hp : headerSize ≤ p) :
    Field.carries id.fields (p - headerSize) =
      (decide (p < frameLength id) && !isPadding id p) := by
  have hdiv : (p - headerSize) / slotSize = p / slotSize - 1 := by
    simp only [headerSize, slotSize] at hp ⊢
    omega
  have hmod : (p - headerSize) % slotSize = p % slotSize := by
    simp only [headerSize, slotSize] at hp ⊢
    omega
  have hslot := lt_frameLength_iff id hp
  rw [Field.carries_of_advance id.advance_of_mem_fields, isPadding, hdiv, hmod,
    decide_eq_true hp, Bool.true_and]
  cases hfield : id.fields[p / slotSize - 1]? with
  | none =>
    have hbeyond := List.getElem?_eq_none_iff.mp hfield
    have hend : ¬ p < frameLength id := fun hlt => by
      have := hslot.mp hlt
      omega
    rw [Option.any_none, decide_eq_false hend, Bool.false_and]
  | some f =>
    obtain ⟨hindex, hget⟩ := List.getElem?_eq_some_iff.mp hfield
    have hwidth := id.width_of_mem_fields f (hget ▸ List.getElem_mem hindex)
    rw [Option.any_some, Option.any_some, decide_eq_true (hslot.mpr hindex), Bool.true_and, hwidth]
    by_cases hu8 : f.kind = .u8
    · rw [if_pos hu8, hu8]
      by_cases hfirst : p % slotSize = 0 <;> simp [hfirst]
    · have hlt : p % slotSize < slotSize := Nat.mod_lt _ (by decide)
      simp [hu8, hlt]

theorem lt_frameLength_of_isPadding {id : MessageId} {p : Nat} (h : isPadding id p = true) :
    p < frameLength id := by
  rw [lt_frameLength_iff id (headerSize_le_of_isPadding h)]
  rw [isPadding, Bool.and_eq_true] at h
  cases hfield : id.fields[p / slotSize - 1]? with
  | none =>
    rw [hfield] at h
    cases h.2
  | some f => exact (List.getElem?_eq_some_iff.mp hfield).1

theorem isPadding_of_no_octets {id : MessageId} (h : ∀ f ∈ id.fields, f.kind ≠ .u8) (p : Nat) :
    isPadding id p = false := by
  rw [isPadding]
  cases hfield : id.fields[p / slotSize - 1]? with
  | none => rw [Option.any_none, Bool.and_false]
  | some f =>
    have hkind := h f (List.mem_of_getElem? hfield)
    rw [Option.any_some, beq_false_of_ne hkind, Bool.and_false]

theorem isPadding_of_octets {id : MessageId} (h : ∀ f ∈ id.fields, f.kind = .u8) (p : Nat) :
    isPadding id p =
      (decide (headerSize ≤ p) && decide (p < frameLength id) && p % slotSize != 0) := by
  rw [isPadding]
  by_cases hheader : headerSize ≤ p
  · have hslot := lt_frameLength_iff id hheader
    cases hfield : id.fields[p / slotSize - 1]? with
    | none =>
      have hbeyond := List.getElem?_eq_none_iff.mp hfield
      have hend : ¬ p < frameLength id := fun hlt => Nat.not_lt.mpr hbeyond (hslot.mp hlt)
      rw [Option.any_none, decide_eq_false hend, Bool.and_false, Bool.and_false, Bool.false_and]
    | some f =>
      obtain ⟨hindex, -⟩ := List.getElem?_eq_some_iff.mp hfield
      have hkind := h f (List.mem_of_getElem? hfield)
      rw [Option.any_some, hkind, decide_eq_true (hslot.mpr hindex), Bool.and_true]
      exact Bool.and_true _
  · rw [decide_eq_false hheader, Bool.false_and, Bool.false_and, Bool.false_and, Bool.false_and]

/-- With room for the frame, writing gives the header and the fields over what was there. -/
theorem encode_eq (m : Message) {buffer : Bytes} (h : frameLength m.id ≤ buffer.length) :
    m.encode buffer =
      (.ok (frameLength m.id),
        (frameHeader m.id).pack ++
          Values.write m.id.fields m.values (buffer.drop headerSize)) := by
  have hlength := frameLength_eq m.id
  have hheader : headerSize ≤ buffer.length := by omega
  have hspan : Field.span m.id.fields ≤ (buffer.drop headerSize).length := by
    rw [List.length_drop]
    omega
  -- The cursor behind the header, and what lies in front of it once the fields are written.
  let w := (Writer.start buffer).moveOver headerSize buffer
  let ahead := buffer.take headerSize ++
    Values.write m.id.fields m.values (buffer.drop headerSize)
  have hahead : ahead.length = buffer.length := by
    rw [List.length_append, Values.length_write m.values hspan, ← List.length_append,
      List.take_append_drop]
  have hreserve : (Writer.start buffer).reserveHeader = .ok w := by
    rw [Writer.reserveHeader_eq]
    exact if_pos hheader
  have hput : w.putFields m.id.fields m.values =
      (.ok (), (Writer.start buffer).moveOver (frameLength m.id) ahead) := by
    rw [Writer.putFields_eq m.values w hspan, Writer.moveOver_moveOver _ hheader, ← hlength]
    rfl
  have hposition : ((Writer.start buffer).moveOver (frameLength m.id) ahead).position =
      frameLength m.id := by
    rw [Writer.position_moveOver _ (by omega), Writer.position_start, Nat.zero_add]
  have hbuffer : ((Writer.start buffer).moveOver (frameLength m.id) ahead).buffer = ahead :=
    Writer.buffer_moveOver _ _ _
  have hoverwrite : Bytes.overwrite (frameHeader m.id).pack ahead =
      (frameHeader m.id).pack ++ Values.write m.id.fields m.values (buffer.drop headerSize) := by
    rw [Bytes.overwrite, Header.length_pack,
      List.drop_left' (by rw [List.length_take, Nat.min_eq_left hheader])]
  have hfinish := Writer.finish?_eq (w := (Writer.start buffer).moveOver (frameLength m.id) ahead)
    (UInt16.ofNat m.id.number) (by rw [hbuffer]; omega)
  rw [hposition, hbuffer] at hfinish
  simp only [encode, hreserve, hput, hfinish]
  exact congrArg (Prod.mk _) hoverwrite

/-- Behind the header of a written frame lie the fields. -/
theorem getElem?_encode (m : Message) {buffer : Bytes} (h : frameLength m.id ≤ buffer.length)
    {p : Nat} (hp : headerSize ≤ p) :
    (m.encode buffer).2[p]? =
      (Values.write m.id.fields m.values (buffer.drop headerSize))[p - headerSize]? := by
  have hpack := (frameHeader m.id).length_pack
  rw [encode_eq m h, List.getElem?_append_right (by omega), hpack]

theorem decodeAs_eq (id : MessageId) (frame : Bytes) :
    decodeAs id frame =
      if headerSize ≤ frame.length then
        (Values.read id.fields (frame.drop headerSize)).map fun values =>
          (⟨Header.ofWord frame.leadingWord, values⟩, frameLength id)
      else .error (.bufferTooSmall headerSize frame.length) := by
  by_cases h : headerSize ≤ frame.length
  · have hheader : (Reader.start frame).header =
        .ok (Header.ofWord frame.leadingWord, (Reader.start frame).moveOver headerSize) := by
      simp only [Reader.header, Reader.start, Header.decode_eq, if_pos h, bind, Except.bind]
      rfl
    have hposition : headerSize + Field.span id.fields = frameLength id := (frameLength_eq id).symm
    have hahead : ((Reader.start frame).moveOver headerSize).ahead = frame.drop headerSize := rfl
    simp only [decodeAs, hheader, Reader.getFields_eq, hahead, if_pos h, bind, Except.bind]
    cases Values.read id.fields (frame.drop headerSize) with
    | error fault => rfl
    | ok values =>
      rw [← hposition]
      simp only [Except.map, Reader.moveOver, Reader.start, Nat.zero_add]
      rfl
  · simp only [decodeAs, Reader.header, Reader.start, Header.decode_eq, if_neg h, bind, Except.bind]

/-- The number in the header decides how a frame is read. -/
theorem decode_of_number {id : MessageId} {frame : Bytes} (h : headerSize ≤ frame.length)
    (hid : frame.leadingWord / 1048576 = id.number) :
    decode frame =
      (Values.read id.fields (frame.drop headerSize)).map fun values =>
        (⟨Header.ofWord frame.leadingWord, ⟨id, values⟩⟩, frameLength id) := by
  have hnumber := Header.toNat_id_ofWord frame.leadingWord_lt
  rw [hid] at hnumber
  simp only [decode, Header.decode_eq, if_pos h, bind, Except.bind, hnumber, id.ofNumber?_number,
    decodeAs_eq]
  cases Values.read id.fields (frame.drop headerSize) <;> rfl

theorem decode_of_no_number {frame : Bytes} (h : headerSize ≤ frame.length)
    (hid : MessageId.ofNumber? (frame.leadingWord / 1048576) = none) :
    decode frame = .error (.unknownMessageId (frame.leadingWord / 1048576)) := by
  have hnumber := Header.toNat_id_ofWord frame.leadingWord_lt
  simp only [decode, Header.decode_eq, if_pos h, bind, Except.bind, hnumber, hid]

theorem decode_of_short {frame : Bytes} (h : ¬ headerSize ≤ frame.length) :
    decode frame = .error (.bufferTooSmall headerSize frame.length) := by
  rw [decode, Header.decode_eq, if_neg h]
  rfl

theorem decode_eq_ok_iff {frame : Bytes} {h : Header} {m : Message} {n : Nat} :
    decode frame = .ok (⟨h, m⟩, n) ↔
      headerSize ≤ frame.length ∧ frame.leadingWord / 1048576 = m.id.number ∧
        h = Header.ofWord frame.leadingWord ∧
        Values.read m.id.fields (frame.drop headerSize) = .ok m.values ∧ n = frameLength m.id := by
  constructor
  · intro hd
    by_cases hlength : headerSize ≤ frame.length
    · cases hid : MessageId.ofNumber? (frame.leadingWord / 1048576) with
      | none =>
        rw [decode_of_no_number hlength hid] at hd
        cases hd
      | some id =>
        have hnumber := MessageId.number_of_ofNumber? hid
        rw [decode_of_number hlength hnumber.symm] at hd
        cases hread : Values.read id.fields (frame.drop headerSize) with
        | error fault =>
          rw [hread] at hd
          cases hd
        | ok values =>
          rw [hread] at hd
          cases hd
          exact ⟨hlength, hnumber.symm, rfl, hread, rfl⟩
    · rw [decode_of_short hlength] at hd
      cases hd
  · rintro ⟨hlength, hid, rfl, hread, rfl⟩
    rw [decode_of_number hlength hid, hread]
    rfl

end Message
end WrenchLink

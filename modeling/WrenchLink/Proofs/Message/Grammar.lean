/-
Which bytes are frames, and what is wrong with the others.

`Refusal` says it without a cursor: there is no header, or its number is not in the catalog,
or walking the fields slot by slot stops at the first slot that is cut off or holds no
enumerator.  `decode_refuses_iff` is the main statement: reading refuses for exactly those
faults, accepts all else, and looks at nothing but the number and the bytes of the values.
-/
import WrenchLink.Proofs.Message.Frame

namespace WrenchLink
namespace Enumeration

theorem mem_values (e : Enumeration) (v : e.Value) : v ∈ e.values := by
  cases e <;> cases v <;> first | exact .head _ | exact .tail _ (.head _)

theorem toInt_eq_code_iff {c n : Nat} (hc : c < 2) (hn : n < 4294967296) :
    (c : Int) = (UInt32.ofNat n).toInt32.toInt ↔ c = n := by
  have hint : (UInt32.ofNat n).toInt32.toInt = (n : Int).bmod 4294967296 := Int32.toInt_ofNat'
  rw [hint, Int.bmod_def]
  omega

/-- An integer is some enumerator's exactly if it reads as one. -/
theorem ofCode?_eq_none_iff (e : Enumeration) {n : Nat} (hn : n < 4294967296) :
    e.ofCode? n = none ↔ ∀ v, (e.code v : Int) ≠ (UInt32.ofNat n).toInt32.toInt := by
  constructor
  · intro h v hv
    have hcode := (toInt_eq_code_iff (e.code_lt v) hn).mp hv
    rw [← hcode, ofCode?_code] at h
    cases h
  · intro h
    cases hv : e.ofCode? n with
    | none => rfl
    | some v => exact absurd ((toInt_eq_code_iff (e.code_lt v) hn).mpr (code_of_ofCode? hv)) (h v)

end Enumeration

theorem Scalar.ofBits_of_ne_enumeration {k : Scalar} (h : ∀ e, k ≠ .enumeration e) (n : Nat) :
    ∃ v, k.ofBits n = .ok v := by
  cases k with
  | enumeration e => exact absurd rfl (h e)
  | _ => exact ⟨_, rfl⟩

theorem Scalar.ofBits_enumeration {e : Enumeration} {n : Nat} {v : e.Value}
    (h : e.ofCode? n = some v) : (enumeration e).ofBits n = .ok v := by
  simp only [ofBits, h]

theorem Scalar.ofBits_enumeration_of_none {e : Enumeration} {n : Nat} (h : e.ofCode? n = none) :
    (enumeration e).ofBits n =
      .error (.invalidEnumerator e (UInt32.ofNat n).toInt32.toInt) := by
  simp only [ofBits, h]

theorem MessageId.ofNumber?_eq_none_iff (n : Nat) : ofNumber? n = none ↔ n = 0 ∨ 40 < n := by
  have hlength : all.length = 40 := rfl
  rw [ofNumber?]
  by_cases hn : n = 0
  · rw [if_pos hn]
    exact ⟨fun _ => Or.inl hn, fun _ => rfl⟩
  · rw [if_neg hn, List.getElem?_eq_none_iff, hlength]
    omega

theorem MessageId.number_injective {id other : MessageId} (h : id.number = other.number) :
    id = other := by
  have hsame := id.ofNumber?_number
  rw [h, other.ofNumber?_number] at hsame
  exact (Option.some.inj hsame).symm

namespace Message

/-! ## The grammar -/

/-- The number in the upper twelve bits of the header. -/
def frameNumber (frame : Bytes) : Nat := frame.leadingWord / 1048576

theorem expect_leadingWord {α : Type} (frame : Bytes) (content : α) (id : MessageId) :
    Decoded.expect ⟨Header.ofWord frame.leadingWord, content⟩ id =
      if frameNumber frame = id.number then .ok content
      else .error (.protocolMismatch id.number (frameNumber frame)) := by
  rw [Decoded.expect, Header.toNat_id_ofWord frame.leadingWord_lt]
  rfl

def slotInteger (frame : Bytes) (j : Nat) : Int :=
  (UInt32.ofNat
    (Bytes.toNat ((frame.drop (headerSize + slotSize * j)).take slotSize))).toInt32.toInt

/-- What keeps slot `j` of a frame from being read as a value of the kind, if anything does. -/
def slotFault? (frame : Bytes) (j : Nat) (kind : Scalar) : Option Fault :=
  if frame.length < headerSize + slotSize * j + slotSize then
    some (.bufferTooSmall slotSize (frame.length - (headerSize + slotSize * j)))
  else
    match kind with
    | .enumeration e =>
      if ∃ v ∈ e.values, (e.code v : Int) = slotInteger frame j then none
      else some (.invalidEnumerator e (slotInteger frame j))
    | _ => none

/-- Walking fields whose first lies in slot `j` stops at a fault: at the first slot that has
one. -/
inductive StopsAt (frame : Bytes) : Nat → List Field → Fault → Prop where
  | here {j : Nat} {f : Field} {rest : List Field} {fault : Fault} :
    slotFault? frame j f.kind = some fault → StopsAt frame j (f :: rest) fault
  | later {j : Nat} {f : Field} {rest : List Field} {fault : Fault} :
    slotFault? frame j f.kind = none → StopsAt frame (j + 1) rest fault →
      StopsAt frame j (f :: rest) fault

/-- What is wrong with bytes that are no frame. -/
inductive Refusal (frame : Bytes) : Fault → Prop where
  | short : frame.length < headerSize → Refusal frame (.bufferTooSmall headerSize frame.length)
  | unknown : headerSize ≤ frame.length → frameNumber frame = 0 ∨ 40 < frameNumber frame →
    Refusal frame (.unknownMessageId (frameNumber frame))
  | slot (id : MessageId) {fault : Fault} : headerSize ≤ frame.length →
    frameNumber frame = id.number → StopsAt frame 0 id.fields fault → Refusal frame fault

/-- Two byte strings with the same number and the same bytes of every value, as far as they
go.  Sizes and encodings in the headers, padding and what follows the frames may differ. -/
structure SameFields (frame other : Bytes) : Prop where
  header : headerSize ≤ frame.length ∧ headerSize ≤ other.length
  number : frameNumber frame = frameNumber other
  length : ∀ id : MessageId, frameNumber frame = id.number →
    min frame.length (frameLength id) = min other.length (frameLength id)
  value : ∀ id : MessageId, frameNumber frame = id.number → ∀ p, headerSize ≤ p →
    p < frameLength id → isPadding id p = false → frame[p]? = other[p]?

/-! ## Slots and fields -/

/-- A slot is read unless there is a fault, which is then how reading it fails. -/
theorem decode_slot {kind : Scalar} (h : kind.advance = slotSize) (frame : Bytes) (j : Nat) :
    (slotFault? frame j kind = none ∧
      ∃ v, kind.decode (frame.drop (headerSize + slotSize * j)) = .ok v) ∨
    ∃ fault, slotFault? frame j kind = some fault ∧
      kind.decode (frame.drop (headerSize + slotSize * j)) = .error fault := by
  have hslot : 0 < slotSize := by decide
  unfold slotFault?
  rw [Scalar.decode_eq, h, List.length_drop]
  by_cases hfit : frame.length < headerSize + slotSize * j + slotSize
  · rw [if_pos hfit, if_neg (by omega)]
    exact Or.inr ⟨_, rfl, rfl⟩
  · rw [if_neg hfit, if_pos (by omega)]
    split
    · rename_i e
      have hlt : Bytes.toNat ((frame.drop (headerSize + slotSize * j)).take slotSize) <
          4294967296 := Bytes.leadingWord_lt (frame.drop (headerSize + slotSize * j))
      have hwidth : (Scalar.enumeration e).width = slotSize := rfl
      rw [hwidth]
      cases hcode : e.ofCode? (Bytes.toNat
          ((frame.drop (headerSize + slotSize * j)).take slotSize)) with
      | none =>
        have hnone := (e.ofCode?_eq_none_iff hlt).mp hcode
        rw [if_neg (by rintro ⟨v, -, hv⟩; exact hnone v hv),
          Scalar.ofBits_enumeration_of_none hcode]
        exact Or.inr ⟨_, rfl, rfl⟩
      | some v =>
        have hinteger : (e.code v : Int) = slotInteger frame j :=
          (Enumeration.toInt_eq_code_iff (e.code_lt v) hlt).mpr (Enumeration.code_of_ofCode? hcode)
        rw [if_pos ⟨v, e.mem_values v, hinteger⟩, Scalar.ofBits_enumeration hcode]
        exact Or.inl ⟨rfl, v, rfl⟩
    · rename_i hkind
      exact Or.inl ⟨rfl, Scalar.ofBits_of_ne_enumeration hkind _⟩

theorem decode_slot_eq_error_iff {kind : Scalar} (h : kind.advance = slotSize) (frame : Bytes)
    (j : Nat) (fault : Fault) :
    kind.decode (frame.drop (headerSize + slotSize * j)) = .error fault ↔
      slotFault? frame j kind = some fault := by
  rcases decode_slot h frame j with ⟨hnone, v, hv⟩ | ⟨first, hsome, hfirst⟩
  · rw [hnone, hv]
    exact iff_of_false nofun nofun
  · rw [hsome, hfirst, Except.error.injEq, Option.some.injEq]

theorem exists_decode_slot_iff {kind : Scalar} (h : kind.advance = slotSize) (frame : Bytes)
    (j : Nat) :
    (∃ v, kind.decode (frame.drop (headerSize + slotSize * j)) = .ok v) ↔
      slotFault? frame j kind = none := by
  rcases decode_slot h frame j with ⟨hnone, v, hv⟩ | ⟨first, hsome, hfirst⟩
  · exact iff_of_true ⟨v, hv⟩ hnone
  · rw [hsome, hfirst]
    exact iff_of_false nofun nofun

theorem stopsAt_cons_iff {frame : Bytes} {j : Nat} {f : Field} {rest : List Field}
    {fault : Fault} :
    StopsAt frame j (f :: rest) fault ↔
      slotFault? frame j f.kind = some fault ∨
        slotFault? frame j f.kind = none ∧ StopsAt frame (j + 1) rest fault := by
  constructor
  · intro h
    cases h with
    | here hsome => exact Or.inl hsome
    | later hnone hstop => exact Or.inr ⟨hnone, hstop⟩
  · rintro (hsome | ⟨hnone, hstop⟩)
    · exact .here hsome
    · exact .later hnone hstop

/-- Reading fails at the first slot with a fault, and only there. -/
theorem read_eq_error_iff {fields : List Field} (h : ∀ f ∈ fields, f.kind.advance = slotSize)
    (frame : Bytes) (j : Nat) (fault : Fault) :
    Values.read fields (frame.drop (headerSize + slotSize * j)) = .error fault ↔
      StopsAt frame j fields fault := by
  induction fields generalizing j with
  | nil => exact iff_of_false nofun nofun
  | cons f rest ih =>
    have hadvance := h f List.mem_cons_self
    have hnext : (frame.drop (headerSize + slotSize * j)).drop f.kind.advance =
        frame.drop (headerSize + slotSize * (j + 1)) := by
      rw [hadvance, List.drop_drop, Nat.mul_succ, Nat.add_assoc]
    have hrest := ih (fun g hg => h g (List.mem_cons_of_mem f hg)) (j + 1)
    rw [Values.read_cons_eq_error_iff, hnext, exists_and_right, hrest,
      decode_slot_eq_error_iff hadvance, exists_decode_slot_iff hadvance, stopsAt_cons_iff]

/-- A slot is free of faults if it is there and holds an enumerator where one is due. -/
theorem slotFault?_eq_none_iff (frame : Bytes) (j : Nat) (kind : Scalar) :
    slotFault? frame j kind = none ↔
      headerSize + slotSize * j + slotSize ≤ frame.length ∧
        ∀ e, kind = .enumeration e → ∃ v, (e.code v : Int) = slotInteger frame j := by
  unfold slotFault?
  by_cases hfit : frame.length < headerSize + slotSize * j + slotSize
  · rw [if_pos hfit]
    constructor
    · intro h
      cases h
    · intro h
      omega
  · rw [if_neg hfit]
    split
    · rename_i e
      by_cases hv : ∃ v ∈ e.values, (e.code v : Int) = slotInteger frame j
      · rw [if_pos hv]
        obtain ⟨v, -, hcode⟩ := hv
        refine ⟨fun _ => ⟨by omega, ?_⟩, fun _ => rfl⟩
        rintro _ ⟨⟩
        exact ⟨v, hcode⟩
      · rw [if_neg hv]
        constructor
        · intro h
          cases h
        · intro h
          obtain ⟨v, hcode⟩ := h.2 e rfl
          exact absurd ⟨v, e.mem_values v, hcode⟩ hv
    · rename_i hkind
      refine ⟨fun _ => ⟨by omega, ?_⟩, fun _ => rfl⟩
      intro e he
      exact absurd he (hkind e)

/-- A walk gets past all slots if none of them has a fault. -/
theorem forall_not_stopsAt_iff (frame : Bytes) (j : Nat) (fields : List Field) :
    (∀ fault, ¬ StopsAt frame j fields fault) ↔
      ∀ k f, fields[k]? = some f → slotFault? frame (j + k) f.kind = none := by
  induction fields generalizing j with
  | nil =>
    constructor
    · intro _ k f hf
      cases hf
    · intro _ fault hstop
      cases hstop
  | cons g rest ih =>
    constructor
    · intro h k f hf
      have hfirst : slotFault? frame j g.kind = none := by
        cases hg : slotFault? frame j g.kind with
        | none => rfl
        | some fault => exact absurd (.here hg) (h fault)
      cases k with
      | zero =>
        cases hf
        exact hfirst
      | succ k =>
        have hrest := (ih (j + 1)).mp fun fault hstop => h fault (.later hfirst hstop)
        rw [← Nat.succ_add_eq_add_succ]
        exact hrest k f hf
    · intro h fault hstop
      have hfirst : slotFault? frame j g.kind = none := h 0 g rfl
      rcases stopsAt_cons_iff.mp hstop with hsome | ⟨-, hlater⟩
      · rw [hfirst] at hsome
        cases hsome
      · refine (ih (j + 1)).mpr (fun k f hf => ?_) fault hlater
        rw [Nat.succ_add_eq_add_succ]
        exact h (k + 1) f hf

/-! ## Frames -/

/-- A frame of the catalog is refused only for its slots. -/
theorem refusal_iff_stopsAt {frame : Bytes} {id : MessageId} (h : headerSize ≤ frame.length)
    (hid : frameNumber frame = id.number) (fault : Fault) :
    Refusal frame fault ↔ StopsAt frame 0 id.fields fault := by
  have hpos := id.number_pos
  have hle := id.number_le
  constructor
  · intro hrefusal
    cases hrefusal with
    | short hshort => omega
    | unknown _ hunknown => omega
    | slot other _ hother hstop =>
      have hsame : other = id := MessageId.number_injective (by rw [← hother, hid])
      rw [← hsame]
      exact hstop
  · exact .slot id h hid

theorem refusal_iff_of_no_number {frame : Bytes} (h : headerSize ≤ frame.length)
    (hid : frameNumber frame = 0 ∨ 40 < frameNumber frame) (fault : Fault) :
    Refusal frame fault ↔ fault = .unknownMessageId (frameNumber frame) := by
  constructor
  · intro hrefusal
    cases hrefusal with
    | short hshort => omega
    | unknown => rfl
    | slot id _ hnumber _ =>
      have hpos := id.number_pos
      have hle := id.number_le
      omega
  · rintro rfl
    exact .unknown h hid

theorem refusal_iff_of_short {frame : Bytes} (h : ¬ headerSize ≤ frame.length) (fault : Fault) :
    Refusal frame fault ↔ fault = .bufferTooSmall headerSize frame.length := by
  constructor
  · intro hrefusal
    cases hrefusal with
    | short => rfl
    | unknown hheader _ => exact absurd hheader h
    | slot _ hheader _ _ => exact absurd hheader h
  · rintro rfl
    exact .short (by omega)

theorem decode_eq_error_iff (frame : Bytes) (fault : Fault) :
    decode frame = .error fault ↔ Refusal frame fault := by
  by_cases hlength : headerSize ≤ frame.length
  · cases hid : MessageId.ofNumber? (frameNumber frame) with
    | none =>
      have hnumber := (MessageId.ofNumber?_eq_none_iff _).mp hid
      rw [decode_of_no_number hlength hid, refusal_iff_of_no_number hlength hnumber,
        Except.error.injEq, eq_comm]
      rfl
    | some id =>
      have hnumber := MessageId.number_of_ofNumber? hid
      have hread := read_eq_error_iff id.advance_of_mem_fields frame 0 fault
      rw [Nat.mul_zero, Nat.add_zero] at hread
      rw [decode_of_number hlength hnumber.symm, refusal_iff_stopsAt hlength hnumber.symm, ← hread]
      cases Values.read id.fields (frame.drop headerSize) with
      | error other => rw [Except.map, Except.error.injEq, Except.error.injEq]
      | ok values =>
        constructor
        · intro h
          cases h
        · intro h
          cases h
  · rw [decode_of_short hlength, refusal_iff_of_short hlength, Except.error.injEq, eq_comm]

/-- Of the bytes behind the header only those of the values count. -/
theorem read_fields_congr {id : MessageId} {frame other : Bytes}
    (hlength : min frame.length (frameLength id) = min other.length (frameLength id))
    (hvalue : ∀ p, headerSize ≤ p → p < frameLength id → isPadding id p = false →
      frame[p]? = other[p]?) :
    Values.read id.fields (frame.drop headerSize) =
      Values.read id.fields (other.drop headerSize) := by
  have hspan := frameLength_eq id
  apply Values.read_congr
  · rw [List.length_drop, List.length_drop]
    omega
  · intro i hi
    have hcarries := carries_eq id (Nat.le_add_right headerSize i)
    rw [Nat.add_sub_cancel_left, hi] at hcarries
    have hp := (Bool.and_eq_true _ _).mp hcarries.symm
    rw [List.getElem?_drop, List.getElem?_drop]
    exact hvalue _ (Nat.le_add_right headerSize i) (of_decide_eq_true hp.1) (by simpa using hp.2)

def contentOf (outcome : Except Fault (Decoded Message × Nat)) : Except Fault (Message × Nat) :=
  outcome.map fun (d, n) => (d.content, n)

theorem contentOf_decode_congr {frame other : Bytes} (h : SameFields frame other) :
    contentOf (decode frame) = contentOf (decode other) := by
  obtain ⟨hframe, hother⟩ := h.header
  have hnumber := h.number
  cases hid : MessageId.ofNumber? (frameNumber frame) with
  | none =>
    have hid' : MessageId.ofNumber? (frameNumber other) = none := by rw [← hnumber, hid]
    rw [decode_of_no_number hframe hid, decode_of_no_number hother hid']
    exact congrArg (fun n => Except.error (Fault.unknownMessageId n)) hnumber
  | some id =>
    have hid := MessageId.number_of_ofNumber? hid
    have hread := read_fields_congr (h.length id hid.symm) (h.value id hid.symm)
    rw [decode_of_number hframe hid.symm, decode_of_number hother (hnumber ▸ hid.symm), hread]
    cases Values.read id.fields (other.drop headerSize) <;> rfl

/-- Reading refuses for exactly the faults of the grammar and accepts all other bytes, as a
message of the number in the header.  Neither the outcome nor the message depends on the
header's size and encoding, on padding or on what follows the frame. -/
theorem decode_refuses_iff (frame : Bytes) :
    (∀ fault, decode frame = .error fault ↔ Refusal frame fault) ∧
      ((∀ fault, ¬ Refusal frame fault) → ∃ m : Message,
        decode frame = .ok (⟨Header.ofWord frame.leadingWord, m⟩, frameLength m.id) ∧
          m.id.number = frameNumber frame) ∧
      ∀ other, SameFields frame other → contentOf (decode frame) = contentOf (decode other) := by
  refine ⟨decode_eq_error_iff frame, ?_, fun other => contentOf_decode_congr⟩
  intro haccepted
  cases hd : decode frame with
  | error fault => exact absurd ((decode_eq_error_iff frame fault).mp hd) (haccepted fault)
  | ok read =>
    obtain ⟨⟨h, m⟩, n⟩ := read
    obtain ⟨-, hnumber, rfl, -, rfl⟩ := decode_eq_ok_iff.mp hd
    exact ⟨m, rfl, hnumber.symm⟩

end Message
end WrenchLink

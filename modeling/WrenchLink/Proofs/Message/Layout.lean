/-
What writing the fields of a message does to the bytes, and what reading them gives.

`Values.write` and `Values.read` are the two walks over a list of fields without a cursor:
`Writer.putFields_eq` and `Reader.getFields_eq` say so.  Bytes that belong to no value are
left alone by the one and ignored by the other, which `Field.carries` makes precise:
`getElem?_write_of_not_carries` and `read_congr`.  The walks undo each other, `read_write`
and `write_of_read`, the latter for fields that are no truth values.
-/
import WrenchLink.Message.Frame
import WrenchLink.Proofs.Wire.Slot

namespace WrenchLink
namespace Field

/-- Bytes from the first of the fields' slots to the end of the last. -/
def span : List Field → Nat
  | [] => 0
  | f :: rest => f.kind.advance + span rest

/-- Whether byte `i`, counted from the first slot, belongs to the value of a field.  The
others are padding or lie behind the fields. -/
def carries : List Field → Nat → Bool
  | [], _ => false
  | f :: rest, i =>
    if i < f.kind.advance then i < f.kind.width else carries rest (i - f.kind.advance)

theorem carries_of_lt_width (f : Field) (rest : List Field) {i : Nat} (h : i < f.kind.width) :
    carries (f :: rest) i = true := by
  have hwidth := f.kind.width_le_advance
  rw [carries, if_pos (by omega)]
  exact decide_eq_true h

theorem carries_advance_add (f : Field) (rest : List Field) (i : Nat) :
    carries (f :: rest) (f.kind.advance + i) = carries rest i := by
  rw [carries, if_neg (by omega), Nat.add_sub_cancel_left]

theorem lt_span_of_carries {fields : List Field} {i : Nat} (h : carries fields i = true) :
    i < span fields := by
  induction fields generalizing i with
  | nil => cases h
  | cons f rest ih =>
    rw [carries] at h
    rw [span]
    by_cases hslot : i < f.kind.advance
    · omega
    · rw [if_neg hslot] at h
      have hlt := ih h
      omega

theorem span_of_advance {fields : List Field} (h : ∀ f ∈ fields, f.kind.advance = slotSize) :
    span fields = slotSize * fields.length := by
  induction fields with
  | nil => rfl
  | cons f rest ih =>
    rw [span, h f List.mem_cons_self, ih fun g hg => h g (List.mem_cons_of_mem f hg),
      List.length_cons, Nat.mul_succ, Nat.add_comm]

end Field

namespace Values

open WrenchLink.Field

/-- The bytes with the values written over their fields' slots. -/
def write : (fields : List Field) → Values fields → Bytes → Bytes
  | [], (), ahead => ahead
  | f :: rest, (v, more), ahead =>
    (Bytes.overwrite (f.kind.bytes v) ahead).take f.kind.advance ++
      write rest more (ahead.drop f.kind.advance)

def read : (fields : List Field) → Bytes → Except Fault (Values fields)
  | [], _ => .ok ()
  | f :: rest, ahead => do
    let v ← f.kind.decode ahead
    let more ← read rest (ahead.drop f.kind.advance)
    return (v, more)

theorem length_head {f : Field} (v : f.kind.Value) {ahead : Bytes}
    (h : f.kind.advance ≤ ahead.length) :
    ((Bytes.overwrite (f.kind.bytes v) ahead).take f.kind.advance).length = f.kind.advance := by
  rw [List.length_take, Scalar.length_overwrite_bytes v h, Nat.min_eq_left h]

theorem length_write {fields : List Field} (values : Values fields) {ahead : Bytes}
    (h : span fields ≤ ahead.length) : (write fields values ahead).length = ahead.length := by
  induction fields generalizing ahead with
  | nil => rfl
  | cons f rest ih =>
    obtain ⟨v, more⟩ := values
    rw [span] at h
    have hrest : span rest ≤ (ahead.drop f.kind.advance).length := by
      rw [List.length_drop]
      omega
    rw [write, List.length_append, length_head v (by omega), ih more hrest, List.length_drop]
    omega

/-- Bytes that belong to no value stay as they are. -/
theorem getElem?_write_of_not_carries {fields : List Field} (values : Values fields)
    {ahead : Bytes} {i : Nat} (h : span fields ≤ ahead.length) (hi : carries fields i = false) :
    (write fields values ahead)[i]? = ahead[i]? := by
  induction fields generalizing ahead i with
  | nil => rfl
  | cons f rest ih =>
    obtain ⟨v, more⟩ := values
    rw [span] at h
    have hadvance : f.kind.advance ≤ ahead.length := by omega
    have hhead := length_head (f := f) v hadvance
    rw [write]
    rw [carries] at hi
    by_cases hslot : i < f.kind.advance
    · rw [if_pos hslot, decide_eq_false_iff_not] at hi
      rw [List.getElem?_append_left (by omega), List.getElem?_take_of_lt hslot,
        Bytes.getElem?_overwrite (by rw [Scalar.length_bytes]; omega)]
    · rw [if_neg hslot] at hi
      have hrest : span rest ≤ (ahead.drop f.kind.advance).length := by
        rw [List.length_drop]
        omega
      have hindex : f.kind.advance + (i - f.kind.advance) = i := by omega
      rw [List.getElem?_append_right (by omega), hhead, ih more hrest hi, List.getElem?_drop,
        hindex]

/-- Bytes that belong to a value do not depend on what was there before. -/
theorem getElem?_write_of_carries {fields : List Field} (values : Values fields)
    {ahead ahead' : Bytes} {i : Nat} (h : span fields ≤ ahead.length)
    (h' : span fields ≤ ahead'.length) (hi : carries fields i = true) :
    (write fields values ahead)[i]? = (write fields values ahead')[i]? := by
  induction fields generalizing ahead ahead' i with
  | nil => cases hi
  | cons f rest ih =>
    obtain ⟨v, more⟩ := values
    rw [span] at h h'
    have hadvance : f.kind.advance ≤ ahead.length := by omega
    have hadvance' : f.kind.advance ≤ ahead'.length := by omega
    have hhead := length_head (f := f) v hadvance
    have hhead' := length_head (f := f) v hadvance'
    rw [write, write]
    rw [carries] at hi
    by_cases hslot : i < f.kind.advance
    · rw [if_pos hslot, decide_eq_true_eq] at hi
      have hbyte : i < (f.kind.bytes v).length := by rw [Scalar.length_bytes]; exact hi
      rw [List.getElem?_append_left (by omega), List.getElem?_append_left (by omega),
        List.getElem?_take_of_lt hslot, List.getElem?_take_of_lt hslot, Bytes.overwrite,
        Bytes.overwrite, List.getElem?_append_left hbyte, List.getElem?_append_left hbyte]
    · rw [if_neg hslot] at hi
      have hrest : span rest ≤ (ahead.drop f.kind.advance).length := by
        rw [List.length_drop]
        omega
      have hrest' : span rest ≤ (ahead'.drop f.kind.advance).length := by
        rw [List.length_drop]
        omega
      rw [List.getElem?_append_right (by omega), List.getElem?_append_right (by omega), hhead,
        hhead', ih more hrest hrest' hi]

theorem read_cons_eq_ok_iff {f : Field} {rest : List Field} {ahead : Bytes} {v : f.kind.Value}
    {more : Values rest} :
    read (f :: rest) ahead = .ok (v, more) ↔
      f.kind.decode ahead = .ok v ∧ read rest (ahead.drop f.kind.advance) = .ok more := by
  rw [read]
  constructor
  · intro h
    cases hv : f.kind.decode ahead with
    | error fault =>
      rw [hv] at h
      cases h
    | ok u =>
      cases hmore : read rest (ahead.drop f.kind.advance) with
      | error fault =>
        rw [hv, hmore] at h
        cases h
      | ok others =>
        rw [hv, hmore] at h
        cases h
        exact ⟨rfl, rfl⟩
  · rintro ⟨hv, hmore⟩
    rw [hv, hmore]
    rfl

theorem read_cons_eq_error_iff {f : Field} {rest : List Field} {ahead : Bytes} {fault : Fault} :
    read (f :: rest) ahead = .error fault ↔
      f.kind.decode ahead = .error fault ∨
        ∃ v, f.kind.decode ahead = .ok v ∧
          read rest (ahead.drop f.kind.advance) = .error fault := by
  rw [read]
  constructor
  · intro h
    cases hv : f.kind.decode ahead with
    | error first =>
      rw [hv] at h
      cases h
      exact Or.inl rfl
    | ok v =>
      refine Or.inr ⟨v, rfl, ?_⟩
      cases hmore : read rest (ahead.drop f.kind.advance) with
      | error later =>
        rw [hv, hmore] at h
        cases h
        rfl
      | ok more =>
        rw [hv, hmore] at h
        cases h
  · rintro (hv | ⟨v, hv, hmore⟩)
    · rw [hv]
      rfl
    · rw [hv, hmore]
      rfl

/-- Reading looks at no byte but those of the values, and at the length no further than
the fields reach. -/
theorem read_congr {fields : List Field} {ahead ahead' : Bytes}
    (hlength : min ahead.length (span fields) = min ahead'.length (span fields))
    (h : ∀ i, carries fields i = true → ahead[i]? = ahead'[i]?) :
    read fields ahead = read fields ahead' := by
  induction fields generalizing ahead ahead' with
  | nil => rfl
  | cons f rest ih =>
    rw [span] at hlength
    have hdecode : f.kind.decode ahead = f.kind.decode ahead' := by
      apply Scalar.decode_congr
      · omega
      · apply List.ext_getElem?
        intro i
        rw [List.getElem?_take, List.getElem?_take]
        split
        · rename_i hi
          exact h i (carries_of_lt_width f rest hi)
        · rfl
    have hrest : read rest (ahead.drop f.kind.advance) =
        read rest (ahead'.drop f.kind.advance) := by
      apply ih
      · rw [List.length_drop, List.length_drop]
        omega
      · intro i hi
        rw [List.getElem?_drop, List.getElem?_drop]
        exact h _ (by rw [carries_advance_add]; exact hi)
    rw [read, read, hdecode, hrest]

theorem read_write {fields : List Field} (values : Values fields) {ahead : Bytes}
    (h : span fields ≤ ahead.length) : read fields (write fields values ahead) = .ok values := by
  induction fields generalizing ahead with
  | nil => rfl
  | cons f rest ih =>
    obtain ⟨v, more⟩ := values
    rw [span] at h
    have hadvance : f.kind.advance ≤ ahead.length := by omega
    have hlength : (write (f :: rest) (v, more) ahead).length = ahead.length :=
      length_write _ h
    have hhead := length_head (f := f) v hadvance
    have hwidth := f.kind.width_le_advance
    rw [read_cons_eq_ok_iff]
    constructor
    · rw [← Scalar.decode_overwrite v hadvance]
      apply Scalar.decode_congr
      · rw [hlength, Scalar.length_overwrite_bytes v hadvance]
      · rw [write, List.take_append_of_le_length (by omega), List.take_take,
          Nat.min_eq_left hwidth]
    · rw [write, List.drop_left' hhead]
      apply ih
      rw [List.length_drop]
      omega

/-- What was read is there: writing it changes nothing. -/
theorem write_of_read {fields : List Field} {values : Values fields} {ahead : Bytes}
    (hbool : ∀ f ∈ fields, f.kind ≠ .bool) (h : read fields ahead = .ok values) :
    span fields ≤ ahead.length ∧ write fields values ahead = ahead := by
  induction fields generalizing ahead with
  | nil => exact ⟨Nat.zero_le _, rfl⟩
  | cons f rest ih =>
    obtain ⟨v, more⟩ := values
    obtain ⟨hv, hmore⟩ := read_cons_eq_ok_iff.mp h
    obtain ⟨hfit, hslot⟩ := Scalar.overwrite_bytes_of_decode (hbool f List.mem_cons_self) hv
    obtain ⟨hroom, hrest⟩ := ih (fun g hg => hbool g (List.mem_cons_of_mem f hg)) hmore
    rw [List.length_drop] at hroom
    refine ⟨?_, ?_⟩
    · rw [span]
      omega
    · rw [write, hslot, hrest, List.take_append_drop]

end Values

namespace Writer

open WrenchLink.Field

theorem moveOver_moveOver (w : Writer) {n m : Nat} {first second : Bytes}
    (h : n ≤ first.length) :
    (w.moveOver n first).moveOver m second = w.moveOver (n + m) (first.take n ++ second) := by
  have hlength : (first.take n).length = n := by
    rw [List.length_take, Nat.min_eq_left h]
  have htake : (first.take n ++ second).take (n + m) = first.take n ++ second.take m := by
    rw [List.take_append, hlength, List.take_of_length_le (by omega), Nat.add_sub_cancel_left]
  have hdrop : (first.take n ++ second).drop (n + m) = second.drop m := by
    rw [List.drop_append, hlength, List.drop_of_length_le (by omega), Nat.add_sub_cancel_left,
      List.nil_append]
  rw [moveOver, moveOver, moveOver, htake, hdrop, List.reverse_append, List.append_assoc]

/-- With room for all the fields every value is written. -/
theorem putFields_eq {fields : List Field} (values : Values fields) (w : Writer)
    (h : span fields ≤ w.ahead.length) :
    w.putFields fields values =
      (.ok (), w.moveOver (span fields) (Values.write fields values w.ahead)) := by
  induction fields generalizing w with
  | nil => rfl
  | cons f rest ih =>
    obtain ⟨v, more⟩ := values
    rw [span] at h
    have hadvance : f.kind.advance ≤ w.ahead.length := by omega
    have hlength := Scalar.length_overwrite_bytes v hadvance
    have hbytes : (f.kind.bytes v).length ≤ f.kind.advance := by
      rw [Scalar.length_bytes]
      exact f.kind.width_le_advance
    rw [putFields, put_eq, if_pos hadvance]
    show putFields rest more (w.moveOver f.kind.advance _) = _
    have hahead : (w.moveOver f.kind.advance (Bytes.overwrite (f.kind.bytes v) w.ahead)).ahead =
        w.ahead.drop f.kind.advance := Bytes.drop_overwrite hbytes
    have hrest : span rest ≤ (w.ahead.drop f.kind.advance).length := by
      rw [List.length_drop]
      omega
    rw [ih more _ (by rw [hahead]; exact hrest), hahead, moveOver_moveOver w (by omega), span,
      Values.write]

end Writer

namespace Reader

open WrenchLink.Field

theorem getFields_eq (fields : List Field) (r : Reader) :
    r.getFields fields =
      (Values.read fields r.ahead).map fun values => (values, r.moveOver (span fields)) := by
  induction fields generalizing r with
  | nil => rfl
  | cons f rest ih =>
    have hahead : (r.moveOver f.kind.advance).ahead = r.ahead.drop f.kind.advance := rfl
    have hmove : (r.moveOver f.kind.advance).moveOver (span rest) =
        r.moveOver (span (f :: rest)) := by
      rw [moveOver, moveOver, moveOver, List.drop_drop, Nat.add_assoc, span]
    simp only [getFields, get, Values.read, bind, Except.bind]
    cases f.kind.decode r.ahead with
    | error fault => rfl
    | ok v =>
      simp only [pure, Except.pure, ih, hahead, hmove]
      cases Values.read rest (r.ahead.drop f.kind.advance) with
      | error fault => rfl
      | ok more => rfl

end Reader
end WrenchLink

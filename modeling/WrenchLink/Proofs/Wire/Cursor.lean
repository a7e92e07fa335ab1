/-
What the cursors do over a whole run of steps.

A step of a write cursor succeeds exactly if its slot fits into what is left of the buffer, and
a step that fails leaves no trace: `attempt_eq`.  So after any steps the cursor stands behind
the slots of those that succeeded (`position_after`), and the bytes that it has passed are
settled: no later step touches them (`take_buffer_after`).  A read cursor that takes the same
types from the finished buffer therefore meets every value where it was put, `getAll_after`,
and the two cursors undo each other: `get_finished_puts`.
-/
import WrenchLink.Message.Catalog
import WrenchLink.Wire.Cursor
import WrenchLink.Proofs.Wire.Header

namespace WrenchLink

@[simp] theorem MessageId.toNat_ofNat_number (id : MessageId) :
    (UInt16.ofNat id.number).toNat = id.number := by
  have hle := id.number_le
  rw [UInt16.toNat_ofNat']
  omega

theorem Header.fits_of_number (id : MessageId) (size : UInt16) :
    Fits ⟨UInt16.ofNat id.number, size, encodingVersion⟩ := by
  have hle := id.number_le
  constructor
  · show (UInt16.ofNat id.number).toNat < 4096
    rw [id.toNat_ofNat_number]
    omega
  · show encodingVersion.toNat < 16
    decide

abbrev Item := (k : Scalar) × k.Value

def Reader.getAll : List Scalar → Reader → Except Fault (List Item × Reader)
  | [], r => .ok ([], r)
  | k :: rest, r => do
    let (v, r) ← r.get k
    let (more, r) ← r.getAll rest
    return (⟨k, v⟩ :: more, r)

theorem Reader.getAll_cons {r last : Reader} {k : Scalar} {v : k.Value} {rest : List Scalar}
    {more : List Item} (hget : k.decode r.ahead = .ok v)
    (hrest : (r.moveOver k.advance).getAll rest = .ok (more, last)) :
    r.getAll (k :: rest) = .ok (⟨k, v⟩ :: more, last) := by
  have hslot : r.get k = .ok (v, r.moveOver k.advance) := bind_eq_ok_iff.mpr ⟨v, hget, rfl⟩
  exact bind_eq_ok_iff.mpr ⟨_, hslot, bind_eq_ok_iff.mpr ⟨_, hrest, rfl⟩⟩

namespace Writer

inductive Step where
  | reserveHeader
  | put (item : Item)

namespace Step

def advance : Step → Nat
  | reserveHeader => headerSize
  | put item => item.1.advance

def width : Step → Nat
  | reserveHeader => 0
  | put item => item.1.width

/-- The bytes ahead of the cursor with those of the step written over them. -/
def write : Step → Bytes → Bytes
  | reserveHeader, ahead => ahead
  | put item, ahead => Bytes.overwrite (item.1.bytes item.2) ahead

theorem length_write (step : Step) {ahead : Bytes} (h : step.advance ≤ ahead.length) :
    (step.write ahead).length = ahead.length := by
  cases step with
  | reserveHeader => rfl
  | put item => exact Scalar.length_overwrite_bytes item.2 h

theorem getElem?_write (step : Step) (ahead : Bytes) {i : Nat} (h : step.width ≤ i) :
    (step.write ahead)[i]? = ahead[i]? := by
  cases step with
  | reserveHeader => rfl
  | put item =>
    apply Bytes.getElem?_overwrite
    rw [Scalar.length_bytes]
    exact h

theorem width_le_advance (step : Step) : step.width ≤ step.advance := by
  cases step with
  | reserveHeader => exact Nat.zero_le _
  | put item => exact item.1.width_le_advance

end Step

def attempt (w : Writer) : Step → Except Fault Writer
  | .reserveHeader => w.reserveHeader
  | .put item => w.put item.1 item.2

/-- The cursor after a step was tried: one that fails leaves it as it was. -/
def next (w : Writer) (step : Step) : Writer :=
  match w.attempt step with
  | .ok moved => moved
  | .error _ => w

def after (w : Writer) (steps : List Step) : Writer := steps.foldl next w

/-- Those of the steps that succeed when all of them are tried in turn. -/
def successes (w : Writer) : List Step → List Step
  | [] => []
  | step :: rest =>
    match w.attempt step with
    | .ok moved => step :: moved.successes rest
    | .error _ => w.successes rest

/-! ## One step -/

theorem length_ahead (w : Writer) : w.ahead.length = w.buffer.length - w.position := by
  simp [buffer, position]

theorem position_le (w : Writer) : w.position ≤ w.buffer.length := by
  simp [buffer, position]

@[simp] theorem drop_buffer (w : Writer) : w.buffer.drop w.position = w.ahead := by
  rw [buffer, position, ← List.length_reverse, List.drop_left]

theorem attempt_eq (w : Writer) (step : Step) :
    w.attempt step =
      if step.advance ≤ w.ahead.length then .ok (w.moveOver step.advance (step.write w.ahead))
      else .error (.bufferTooSmall step.advance w.ahead.length) := by
  cases step with
  | reserveHeader => exact w.reserveHeader_eq
  | put item => exact w.put_eq item.1 item.2

theorem attempt_of_room {w : Writer} {step : Step} (h : step.advance ≤ w.ahead.length) :
    w.attempt step = .ok (w.moveOver step.advance (step.write w.ahead)) := by
  rw [attempt_eq, if_pos h]

theorem attempt_of_no_room {w : Writer} {step : Step} (h : ¬ step.advance ≤ w.ahead.length) :
    w.attempt step = .error (.bufferTooSmall step.advance w.ahead.length) := by
  rw [attempt_eq, if_neg h]

theorem next_of_room {w : Writer} {step : Step} (h : step.advance ≤ w.ahead.length) :
    w.next step = w.moveOver step.advance (step.write w.ahead) := by
  simp only [next, attempt_of_room h]

theorem next_of_no_room {w : Writer} {step : Step} (h : ¬ step.advance ≤ w.ahead.length) :
    w.next step = w := by
  simp only [next, attempt_of_no_room h]

theorem successes_of_room {w : Writer} {step : Step} (h : step.advance ≤ w.ahead.length)
    (rest : List Step) :
    w.successes (step :: rest) = step :: (w.next step).successes rest := by
  simp only [successes, attempt_of_room h, next_of_room h]

theorem successes_of_no_room {w : Writer} {step : Step} (h : ¬ step.advance ≤ w.ahead.length)
    (rest : List Step) : w.successes (step :: rest) = w.successes rest := by
  simp only [successes, attempt_of_no_room h]

theorem position_next_of_room {w : Writer} {step : Step} (h : step.advance ≤ w.ahead.length) :
    (w.next step).position = w.position + step.advance := by
  rw [next_of_room h, position_moveOver]
  rw [step.length_write h]
  exact h

theorem length_buffer_next (w : Writer) (step : Step) :
    (w.next step).buffer.length = w.buffer.length := by
  by_cases h : step.advance ≤ w.ahead.length
  · rw [next_of_room h]
    exact length_moveOver w _ (step.length_write h)
  · rw [next_of_no_room h]

/-- A step writes no byte but its own. -/
theorem getElem?_buffer_next (w : Writer) (step : Step) {i : Nat}
    (hi : i < w.position ∨ w.position + step.width ≤ i) :
    (w.next step).buffer[i]? = w.buffer[i]? := by
  by_cases h : step.advance ≤ w.ahead.length
  · have hbehind : w.behind.reverse.length = w.position := List.length_reverse
    rw [next_of_room h, buffer_moveOver, buffer]
    rcases hi with hi | hi
    · rw [List.getElem?_append_left (by omega), List.getElem?_append_left (by omega)]
    · rw [List.getElem?_append_right (by omega), List.getElem?_append_right (by omega),
        step.getElem?_write w.ahead (by omega)]
  · rw [next_of_no_room h]

/-- What the cursor has passed is settled. -/
theorem take_buffer_next (w : Writer) (step : Step) :
    (w.next step).buffer.take w.position = w.buffer.take w.position := by
  apply List.ext_getElem?
  intro i
  rw [List.getElem?_take, List.getElem?_take]
  split
  · rename_i hi
    exact w.getElem?_buffer_next step (Or.inl hi)
  · rfl

theorem position_le_next (w : Writer) (step : Step) : w.position ≤ (w.next step).position := by
  by_cases h : step.advance ≤ w.ahead.length
  · rw [position_next_of_room h]
    exact Nat.le_add_right _ _
  · exact Nat.le_of_eq (by rw [next_of_no_room h])

/-! ## Any number of steps -/

attribute [local instance (high)] Zero.ofOfNat0

theorem length_buffer_after (w : Writer) (steps : List Step) :
    (w.after steps).buffer.length = w.buffer.length := by
  induction steps generalizing w with
  | nil => rfl
  | cons step rest ih => exact (ih (w.next step)).trans (w.length_buffer_next step)

theorem position_after (w : Writer) (steps : List Step) :
    (w.after steps).position = w.position + ((w.successes steps).map Step.advance).sum := by
  induction steps generalizing w with
  | nil => rfl
  | cons step rest ih =>
    have hrest := ih (w.next step)
    by_cases h : step.advance ≤ w.ahead.length
    · rw [position_next_of_room h] at hrest
      rw [successes_of_room h, List.map_cons, List.sum_cons, ← Nat.add_assoc]
      exact hrest
    · rw [next_of_no_room h] at hrest
      rw [successes_of_no_room h, ← hrest, after, List.foldl_cons, next_of_no_room h, after]

theorem take_buffer_after (w : Writer) (steps : List Step) :
    (w.after steps).buffer.take w.position = w.buffer.take w.position := by
  induction steps generalizing w with
  | nil => rfl
  | cons step rest ih =>
    have hrest := congrArg (List.take w.position) (ih (w.next step))
    rw [List.take_take, List.take_take, Nat.min_eq_left (w.position_le_next step),
      take_buffer_next] at hrest
    exact hrest

/-- The slot of a value that was put reads as the value, whatever is put behind it. -/
theorem get_after_put {w : Writer} {item : Item} (h : (Step.put item).advance ≤ w.ahead.length)
    (rest : List Step) :
    item.1.decode (((w.next (.put item)).after rest).buffer.drop w.position) = .ok item.2 := by
  have hsettled := congrArg (List.drop w.position) ((w.next (.put item)).take_buffer_after rest)
  have hposition := position_next_of_room h
  have hbehind : w.behind.reverse.length = w.position := List.length_reverse
  have hslot : ((w.next (.put item)).buffer.drop w.position) =
      Bytes.overwrite (item.1.bytes item.2) w.ahead := by
    rw [next_of_room h, buffer_moveOver, List.drop_left' hbehind]
    rfl
  rw [List.drop_take, List.drop_take, hposition, Nat.add_sub_cancel_left, hslot] at hsettled
  have hlength := congrArg List.length hsettled
  have hvalue := congrArg (List.take (Step.put item).width) hsettled
  rw [List.length_take, List.length_take] at hlength
  rw [List.take_take, List.take_take, Nat.min_eq_left (Step.put item).width_le_advance] at hvalue
  rw [Scalar.decode_congr hlength hvalue, Scalar.decode_overwrite item.2 h]

/-- Reading the types of the values that were put, from where the first was put, gives these
values and ends where the last was put. -/
theorem getAll_after (w : Writer) (items : List Item) :
    ∃ written : List Item,
      w.successes (items.map .put) = written.map .put ∧
      Reader.getAll (written.map Sigma.fst)
          ⟨w.position, (w.after (items.map .put)).buffer.drop w.position⟩ =
        .ok (written, ⟨(w.after (items.map .put)).position, (w.after (items.map .put)).ahead⟩) := by
  induction items generalizing w with
  | nil =>
    refine ⟨[], rfl, ?_⟩
    rw [← drop_buffer]
    rfl
  | cons item rest ih =>
    obtain ⟨written, hsuccesses, hread⟩ := ih (w.next (.put item))
    by_cases h : (Step.put item).advance ≤ w.ahead.length
    · have hposition : (w.next (.put item)).position = w.position + item.1.advance :=
        position_next_of_room h
      rw [hposition, ← List.drop_drop] at hread
      refine ⟨item :: written, ?_, Reader.getAll_cons (get_after_put h _) hread⟩
      rw [List.map_cons, successes_of_room h, hsuccesses, List.map_cons]
    · rw [next_of_no_room h] at hsuccesses hread
      refine ⟨written, ?_, ?_⟩
      · rw [List.map_cons, successes_of_no_room h, hsuccesses]
      · rw [List.map_cons, after, List.foldl_cons, next_of_no_room h]
        exact hread

/-! ## Closing the frame -/

theorem finish?_eq {w : Writer} (id : UInt16) (h : headerSize ≤ w.buffer.length) :
    w.finish? id =
      some (w.position,
        Bytes.overwrite (Header.pack ⟨id, UInt16.ofNat w.position, encodingVersion⟩) w.buffer) :=
  if_pos ((Bytes.fits_iff _ _).mpr h)

/-- Closing a frame changes its header only, which reads as what closing wrote. -/
theorem header_of_finish? {w : Writer} (id : MessageId) (h : headerSize ≤ w.buffer.length) :
    ∃ closed header,
      w.finish? (UInt16.ofNat id.number) = some (w.position, closed) ∧
      closed.length = w.buffer.length ∧ closed.drop headerSize = w.buffer.drop headerSize ∧
      (Reader.start closed).header = .ok (header, ⟨headerSize, w.buffer.drop headerSize⟩) ∧
      header.id.toNat = id.number ∧ header.size.toNat = w.position % 65536 ∧
      header.encoding = encodingVersion := by
  let header : Header := ⟨UInt16.ofNat id.number, UInt16.ofNat w.position, encodingVersion⟩
  have hpack := header.length_pack
  have hdrop : (Bytes.overwrite header.pack w.buffer).drop headerSize =
      w.buffer.drop headerSize := Bytes.drop_overwrite (Nat.le_of_eq hpack)
  refine ⟨Bytes.overwrite header.pack w.buffer, header, w.finish?_eq _ h, ?_, hdrop, ?_,
    id.toNat_ofNat_number, UInt16.toNat_ofNat', rfl⟩
  · exact Bytes.length_overwrite (by omega)
  · have hread := Header.decode_pack (Header.fits_of_number id (UInt16.ofNat w.position))
      (w.buffer.drop header.pack.length)
    rw [← hdrop]
    exact bind_eq_ok_iff.mpr ⟨header, hread, rfl⟩

/-- Steps that fit succeed and the others fail for want of room, in whatever order they come.
The cursor stands behind what has succeeded, within the buffer; a step that fails changes
nothing, and one that succeeds only its own bytes.  Once the frame is closed, which rewrites the
header and nothing else, reading the header and the types of the values that could be put gives
the id, the position modulo 65536 and these values, and ends at the position. -/
theorem get_finished_puts (buffer : Bytes) (id : MessageId) (items : List Item) :
    let steps := Step.reserveHeader :: items.map Step.put
    (∀ n,
      let w := (start buffer).after (steps.take n)
      let room := buffer.length - w.position
      w.position = (((start buffer).successes (steps.take n)).map Step.advance).sum ∧
      w.position ≤ buffer.length ∧ w.buffer.length = buffer.length ∧
      ∀ step, steps[n]? = some step →
        (room < step.advance →
          w.attempt step = .error (.bufferTooSmall step.advance room) ∧ w.next step = w) ∧
        (step.advance ≤ room →
          w.attempt step = .ok (w.next step) ∧
          (w.next step).position = w.position + step.advance ∧
          ∀ i, i < w.position ∨ w.position + step.width ≤ i →
            (w.next step).buffer[i]? = w.buffer[i]?)) ∧
    (headerSize ≤ buffer.length →
      let w := (start buffer).after steps
      ∃ written closed header body last,
        (start buffer).successes steps = .reserveHeader :: written.map .put ∧
        w.finish? (UInt16.ofNat id.number) = some (w.position, closed) ∧
        closed.length = buffer.length ∧ closed.drop headerSize = w.buffer.drop headerSize ∧
        (Reader.start closed).header = .ok (header, body) ∧
        header.id.toNat = id.number ∧ header.size.toNat = w.position % 65536 ∧
        header.encoding = encodingVersion ∧
        body.getAll (written.map Sigma.fst) = .ok (written, last) ∧
        last.position = w.position) := by
  intro steps
  constructor
  · intro n w room
    have hposition := (start buffer).position_after (steps.take n)
    have hlength : w.buffer.length = buffer.length := (start buffer).length_buffer_after _
    have hle := w.position_le
    have hroom : room = w.ahead.length := by
      rw [length_ahead, hlength]
    rw [position_start, Nat.zero_add] at hposition
    rw [hlength] at hle
    refine ⟨hposition, hle, hlength, fun step _ => ⟨fun h => ?_, fun h => ?_⟩⟩
    · rw [hroom] at h ⊢
      have hno : ¬ step.advance ≤ w.ahead.length := by omega
      exact ⟨attempt_of_no_room hno, next_of_no_room hno⟩
    · rw [hroom] at h
      refine ⟨?_, position_next_of_room h, fun i => w.getElem?_buffer_next step⟩
      rw [attempt_of_room h, next_of_room h]
  · intro hheader w
    have hreserve : Step.reserveHeader.advance ≤ (start buffer).ahead.length := hheader
    obtain ⟨written, hsuccesses, hread⟩ :=
      ((start buffer).next .reserveHeader).getAll_after items
    have hlength : w.buffer.length = buffer.length := (start buffer).length_buffer_after _
    obtain ⟨closed, header, hfinish, hclosed, hdrop, hdecode, hid, hsize, hversion⟩ :=
      w.header_of_finish? id (by rw [hlength]; exact hheader)
    rw [position_next_of_room hreserve] at hread
    refine ⟨written, closed, header, _, _, ?_, hfinish, hclosed.trans hlength, hdrop, hdecode, hid,
      hsize, hversion, hread, rfl⟩
    rw [successes_of_room hreserve, hsuccesses]

/-- Eight bytes do not fit behind the first value, and one byte behind that still does. -/
example :
    ((start (List.replicate 15 0xaa)).after
      [.reserveHeader, .put ⟨.u32, (1 : UInt32)⟩, .put ⟨.u64, (2 : UInt64)⟩,
        .put ⟨.u8, (3 : UInt8)⟩]).buffer =
      [0xaa, 0xaa, 0xaa, 0xaa, 1, 0, 0, 0, 3, 0xaa, 0xaa, 0xaa, 0xaa, 0xaa, 0xaa] := by
  decide

end Writer
end WrenchLink

/-
Cursors over a buffer: one that writes values slot by slot, one that reads them.

A failing step leaves a cursor where it was, so later and smaller steps may still
succeed.
-/
import WrenchLink.Wire.Header

namespace WrenchLink

/-- A write cursor: the bytes it has passed, nearest first, and the bytes ahead. -/
structure Writer where
  behind : Bytes
  ahead : Bytes
  deriving DecidableEq, Repr, Inhabited

namespace Writer

def start (buffer : Bytes) : Writer := ⟨[], buffer⟩

def buffer (w : Writer) : Bytes := w.behind.reverse ++ w.ahead

def position (w : Writer) : Nat := w.behind.length

/-- Moves past the next `n` bytes, which now read as those of `ahead`. -/
def moveOver (w : Writer) (n : Nat) (ahead : Bytes) : Writer :=
  ⟨(ahead.take n).reverse ++ w.behind, ahead.drop n⟩

/-- Leaves room for a header, which is written last. -/
def reserveHeader (w : Writer) : Except Fault Writer := do
  requireBytes headerSize w.ahead
  return w.moveOver headerSize w.ahead

def put (w : Writer) (k : Scalar) (v : k.Value) : Except Fault Writer := do
  let ahead ← k.encode v w.ahead
  return w.moveOver k.advance ahead

/-- Closes a frame: writes the header over the first bytes of the buffer and gives the
frame's length, which the header carries modulo 65536, with the finished buffer.  There is
none if the buffer is shorter than a header. -/
def finish? (w : Writer) (id : UInt16) : Option (Nat × Bytes) :=
  let header : Header := ⟨id, UInt16.ofNat w.position, encodingVersion⟩
  if Bytes.fits headerSize w.buffer then
    some (w.position, Bytes.overwrite header.pack w.buffer)
  else
    none

theorem put_eq (w : Writer) (k : Scalar) (v : k.Value) :
    w.put k v =
      if k.advance ≤ w.ahead.length then
        .ok (w.moveOver k.advance (Bytes.overwrite (k.bytes v) w.ahead))
      else .error (.bufferTooSmall k.advance w.ahead.length) := by
  rw [put, Scalar.encode_eq]
  split <;> rfl

theorem reserveHeader_eq (w : Writer) :
    w.reserveHeader =
      if headerSize ≤ w.ahead.length then .ok (w.moveOver headerSize w.ahead)
      else .error (.bufferTooSmall headerSize w.ahead.length) := by
  rw [reserveHeader, requireBytes]
  by_cases h : headerSize ≤ w.ahead.length
  · rw [if_pos ((Bytes.fits_iff _ _).mpr h), if_pos h]
    rfl
  · rw [if_neg (fun hf => h ((Bytes.fits_iff _ _).mp hf)), if_neg h]
    rfl

@[simp] theorem position_start (buffer : Bytes) : (start buffer).position = 0 := rfl

/-- What moving shows of the buffer: the bytes ahead are replaced. -/
theorem buffer_moveOver (w : Writer) (n : Nat) (ahead : Bytes) :
    (w.moveOver n ahead).buffer = w.behind.reverse ++ ahead := by
  rw [moveOver, buffer, List.reverse_append, List.reverse_reverse, List.append_assoc,
    List.take_append_drop]

theorem position_moveOver (w : Writer) {n : Nat} {ahead : Bytes} (h : n ≤ ahead.length) :
    (w.moveOver n ahead).position = w.position + n := by
  rw [moveOver, position, List.length_append, List.length_reverse, List.length_take,
    Nat.min_eq_left h, Nat.add_comm, position]

theorem length_moveOver (w : Writer) (n : Nat) {ahead : Bytes}
    (h : ahead.length = w.ahead.length) : (w.moveOver n ahead).buffer.length = w.buffer.length := by
  rw [buffer_moveOver, buffer, List.length_append, List.length_append, h]

theorem length_put {w w' : Writer} {k : Scalar} {v : k.Value} (h : w.put k v = .ok w') :
    w'.buffer.length = w.buffer.length := by
  rw [put_eq] at h
  split at h
  · rename_i hfit
    cases h
    have hwidth := k.width_le_advance
    rw [← k.length_bytes v] at hwidth
    exact length_moveOver w _ (Bytes.length_overwrite (Nat.le_trans hwidth hfit))
  · cases h

end Writer

/-- A read cursor: how many bytes it has passed, and those ahead. -/
structure Reader where
  position : Nat
  ahead : Bytes
  deriving DecidableEq, Repr, Inhabited

namespace Reader

def start (frame : Bytes) : Reader := ⟨0, frame⟩

def moveOver (r : Reader) (n : Nat) : Reader := ⟨r.position + n, r.ahead.drop n⟩

def header (r : Reader) : Except Fault (Header × Reader) := do
  let h ← Header.decode r.ahead
  return (h, r.moveOver headerSize)

def get (r : Reader) (k : Scalar) : Except Fault (k.Value × Reader) := do
  let v ← k.decode r.ahead
  return (v, r.moveOver k.advance)

end Reader
end WrenchLink

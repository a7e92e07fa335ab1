/-
Frames one after the other in a stream.

A frame tells how long it is, so nothing has to stand between frames: `cutAll` cuts a stream
where the headers say and reads each piece by itself.  Whatever messages were written, and
into whatever buffers, the stream of their frames is cut into just these frames again, each of
which is read to its end: `cutAll_frames`.
-/
import WrenchLink.Proofs.Message.RoundTrip

namespace WrenchLink

/-- A message to be written, and a buffer with room for its frame. -/
structure Placement where
  message : Message
  buffer : Bytes
  room : Message.frameLength message.id ≤ buffer.length

/-- A piece of a stream, what it was read as, and how many of its bytes that took. -/
structure Cut where
  piece : Bytes
  message : Message
  read : Nat

def Placement.frame (p : Placement) : Bytes := p.message.frameIn p.buffer

def Placement.cut (p : Placement) : Cut := ⟨p.frame, p.message, p.frame.length⟩

namespace Message

/-- Cuts off the frame in front, which is as long as its header says. -/
def cutFrame (stream : Bytes) : Except Fault (Cut × Bytes) := do
  let header ← Header.decode stream
  requireBytes header.size.toNat stream
  let piece := stream.take header.size.toNat
  let (decoded, read) ← decode piece
  return (⟨piece, decoded.content, read⟩, stream.drop header.size.toNat)

/-- A header that tells a size of less than itself cuts off a piece that cannot be read, so
every cut brings the end of the stream nearer. -/
theorem length_of_cutFrame {stream rest : Bytes} {cut : Cut}
    (h : cutFrame stream = .ok (cut, rest)) : rest.length < stream.length := by
  obtain ⟨header, -, h⟩ := bind_eq_ok_iff.mp h
  obtain ⟨_, -, h⟩ := bind_eq_ok_iff.mp h
  obtain ⟨⟨⟨frameHeader, message⟩, read⟩, hdecode, h⟩ := bind_eq_ok_iff.mp h
  cases h
  have hpiece := (decode_eq_ok_iff.mp hdecode).1
  have hheader : headerSize = 4 := rfl
  rw [List.length_take] at hpiece
  rw [List.length_drop]
  omega

def cutAll (stream : Bytes) : Except Fault (List Cut) :=
  if stream = [] then .ok []
  else
    match h : cutFrame stream with
    | .error fault => .error fault
    | .ok (cut, rest) =>
      have := length_of_cutFrame h
      (cutAll rest).map (cut :: ·)
termination_by stream.length

theorem cutAll_nil : cutAll [] = .ok [] := by
  rw [cutAll, if_pos rfl]

theorem cutAll_of_cutFrame {stream rest : Bytes} {cut : Cut}
    (h : cutFrame stream = .ok (cut, rest)) : cutAll stream = (cutAll rest).map (cut :: ·) := by
  have hlength := length_of_cutFrame h
  have hne : stream ≠ [] := by
    rintro rfl
    exact Nat.not_lt_zero _ hlength
  rw [cutAll, if_neg hne]
  split
  · rename_i hfault
    rw [h] at hfault
    cases hfault
  · rename_i hok
    rw [h] at hok
    cases hok
    rfl

end Message

namespace Placement

open Message

@[simp] theorem length_frame (p : Placement) : p.frame.length = frameLength p.message.id :=
  p.message.length_frameIn p.room

theorem decode_frame (p : Placement) (rest : Bytes) :
    decode (p.frame ++ rest) = .ok (⟨frameHeader p.message.id, p.message⟩, p.frame.length) := by
  rw [length_frame]
  exact p.message.decode_frameIn p.room rest

theorem header_frame (p : Placement) (rest : Bytes) :
    Header.decode (p.frame ++ rest) = .ok (frameHeader p.message.id) := by
  obtain ⟨hheader, -, hword, -⟩ := decode_eq_ok_iff.mp (p.decode_frame rest)
  rw [Header.decode_eq, if_pos hheader, hword]

theorem cutFrame_frame (p : Placement) (rest : Bytes) :
    cutFrame (p.frame ++ rest) = .ok (p.cut, rest) := by
  have hsize : (frameHeader p.message.id).size.toNat = p.frame.length := by
    rw [toNat_frameHeader_size, length_frame]
  have hroom : requireBytes p.frame.length (p.frame ++ rest) = .ok () := by
    rw [requireBytes, if_pos]
    rw [Bytes.fits_iff, List.length_append]
    omega
  have hdecode := p.decode_frame []
  rw [List.append_nil] at hdecode
  simp only [cutFrame, header_frame, hsize, bind, Except.bind, hroom, List.take_left, hdecode,
    List.drop_left]
  rfl

end Placement

namespace Message

/-- The stream of any placements' frames is cut into these frames, in their order, up to its
end, and reading a frame takes all of it.  Writing gives the length of the frame, which is also
what the header says: it lies between 4 and 52, so it is never cut to the header's 16 bits. -/
theorem cutAll_frames (placements : List Placement) :
    cutAll (placements.flatMap Placement.frame) = .ok (placements.map Placement.cut) ∧
      ∀ p ∈ placements, ∃ header written,
        p.message.encode p.buffer = (.ok header.size.toNat, written) ∧
        written.take header.size.toNat = p.frame ∧ Header.decode p.frame = .ok header ∧
        p.frame.length = header.size.toNat ∧ 4 ≤ header.size.toNat ∧ header.size.toNat ≤ 52 := by
  constructor
  · induction placements with
    | nil => exact cutAll_nil
    | cons p rest ih =>
      rw [List.flatMap_cons, cutAll_of_cutFrame (p.cutFrame_frame _), ih]
      rfl
  · intro p _
    have hsize := toNat_frameHeader_size p.message.id
    have hle := frameLength_le p.message.id
    have hge : 4 ≤ frameLength p.message.id := Nat.le_add_right headerSize _
    have hheader := p.header_frame []
    rw [List.append_nil] at hheader
    refine ⟨frameHeader p.message.id, (p.message.encode p.buffer).2, ?_, ?_, hheader, ?_, ?_, ?_⟩
    · rw [hsize, encode_eq p.message p.room]
    · rw [hsize]
      rfl
    · rw [hsize, p.length_frame]
    · omega
    · omega

end Message
end WrenchLink

/-
Messages and the frames that carry them.

A frame is a header followed by the message's fields, each in its own slot.  Fields do
not say where they end, so a frame makes sense only beside a list of fields, and writing
and reading walk that list in the same order.  `Message.encode` writes the fields first
and the header, which holds the length of the frame, last.
-/
import WrenchLink.Message.Catalog
import WrenchLink.Wire.Cursor

namespace WrenchLink

/-- One value for each field of a list. -/
def Values : List Field → Type
  | [] => Unit
  | f :: rest => f.kind.Value × Values rest

namespace Values

def default : (fields : List Field) → Values fields
  | [] => ()
  | f :: rest => (f.kind.default, default rest)

def toList : (fields : List Field) → Values fields → List ((f : Field) × f.kind.Value)
  | [], () => []
  | f :: rest, (v, more) => ⟨f, v⟩ :: toList rest more

end Values

instance Values.decidableEq : (fields : List Field) → DecidableEq (Values fields)
  | [] => inferInstanceAs (DecidableEq Unit)
  | _ :: rest => by
    have := Values.decidableEq rest
    exact inferInstanceAs (DecidableEq (_ × _))

instance (fields : List Field) : DecidableEq (Values fields) := Values.decidableEq fields

structure Message where
  id : MessageId
  values : Values id.fields
  deriving DecidableEq

namespace Message

def default (id : MessageId) : Message := ⟨id, Values.default id.fields⟩

def frameLength (id : MessageId) : Nat := headerSize + slotSize * id.fields.length

end Message

namespace Writer

/-- Writes values one after the other until one does not fit; what was written before
stays. -/
def putFields : (fields : List Field) → Values fields → Writer → Except Fault Unit × Writer
  | [], (), w => (.ok (), w)
  | f :: rest, (v, more), w =>
    match w.put f.kind v with
    | .error fault => (.error fault, w)
    | .ok w => w.putFields rest more

end Writer

namespace Reader

def getFields : (fields : List Field) → Reader → Except Fault (Values fields × Reader)
  | [], r => .ok ((), r)
  | f :: rest, r => do
    let (v, r) ← r.get f.kind
    let (more, r) ← r.getFields rest
    return ((v, more), r)

end Reader

namespace Message

/-- Writes the message's frame at the start of the buffer.  The outcome is the length of
the frame; the buffer comes back in either case. -/
def encode (m : Message) (buffer : Bytes) : Except Fault Nat × Bytes :=
  match (Writer.start buffer).reserveHeader with
  | .error fault => (.error fault, buffer)
  | .ok w =>
    match w.putFields m.id.fields m.values with
    | (.error fault, w) => (.error fault, w.buffer)
    | (.ok (), w) =>
      match w.finish? (UInt16.ofNat m.id.number) with
      | some (length, buffer) => (.ok length, buffer)
      | none => (.error (.bufferTooSmall headerSize buffer.length), w.buffer)

def frame (m : Message) : Bytes :=
  (m.encode (List.replicate (frameLength m.id) 0)).2

end Message

/-- What a frame was read as, with the header it came with. -/
structure Decoded (α : Type) where
  header : Header
  content : α

namespace Decoded

/-- The content, provided that the header carries the expected id.  The content of any
other frame is never handed out. -/
def expect {α : Type} (d : Decoded α) (id : MessageId) : Except Fault α :=
  if d.header.id.toNat = id.number then .ok d.content
  else .error (.protocolMismatch id.number d.header.id.toNat)

end Decoded

namespace Message

/-- Reads the start of a frame as a message of the given id, whatever id its header
carries.  Besides the content this gives the number of bytes read. -/
def decodeAs (id : MessageId) (frame : Bytes) :
    Except Fault (Decoded (Values id.fields) × Nat) := do
  let (header, r) ← (Reader.start frame).header
  let (values, r) ← r.getFields id.fields
  return (⟨header, values⟩, r.position)

/-- Reads the start of a frame as the message that its header names. -/
def decode (frame : Bytes) : Except Fault (Decoded Message × Nat) := do
  let header ← Header.decode frame
  match MessageId.ofNumber? header.id.toNat with
  | none => .error (.unknownMessageId header.id.toNat)
  | some id =>
    let (d, length) ← decodeAs id frame
    return (⟨d.header, ⟨id, d.content⟩⟩, length)

end Message

theorem Writer.length_putFields (fields : List Field) (values : Values fields) (w : Writer) :
    (w.putFields fields values).2.buffer.length = w.buffer.length := by
  induction fields generalizing w with
  | nil => rfl
  | cons f rest ih =>
    obtain ⟨v, more⟩ := values
    rw [Writer.putFields]
    split
    · rfl
    · rename_i w' hput
      rw [ih more w', Writer.length_put hput]

theorem Message.length_encode (m : Message) (buffer : Bytes) :
    (m.encode buffer).2.length = buffer.length := by
  rw [Message.encode, Writer.reserveHeader_eq]
  split
  · rfl
  · rename_i w hw
    have hlen : w.buffer.length = buffer.length := by
      split at hw
      · cases hw
        exact Writer.length_moveOver (Writer.start buffer) headerSize rfl
      · cases hw
    have hput := Writer.length_putFields m.id.fields m.values w
    split
    · rename_i w' h
      rw [← hlen, ← hput, h]
    · rename_i w' h
      rw [h] at hput
      have hput : w'.buffer.length = buffer.length := hput.trans hlen
      split
      · rename_i n closed hfinish
        rw [Writer.finish?] at hfinish
        split at hfinish
        · rename_i hfits
          cases hfinish
          have hroom := (Bytes.fits_iff _ _).mp hfits
          rw [Bytes.length_overwrite (by rw [Header.length_pack]; exact hroom), hput]
        · cases hfinish
      · exact hput

end WrenchLink

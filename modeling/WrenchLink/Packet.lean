/-
The packet buffer that every transfer goes through.

A packet is 256 bytes of storage, of which the first `size` count.  A received frame is
stored over the front of what was there before, and only its own bytes count afterwards.
-/
import WrenchLink.Message.Frame

namespace WrenchLink

structure Packet where
  content : Bytes
  /-- How many bytes count.  More than the storage holds means all of it. -/
  size : Nat
  length_content : content.length = packetCapacity

namespace Packet

def empty : Packet := ⟨List.replicate packetCapacity 0, 0, List.length_replicate⟩

instance : Inhabited Packet := ⟨empty⟩

def bytes (p : Packet) : Bytes := p.content.take p.size

def setSize (p : Packet) (size : Nat) : Packet := { p with size }

/-- Writes bytes over the front of the storage; what does not fit is lost.  How many bytes
count stays as it was. -/
def fill (p : Packet) (bytes : Bytes) : Packet where
  content := Bytes.overwrite (bytes.take packetCapacity) p.content
  size := p.size
  length_content := by
    have h : (bytes.take packetCapacity).length ≤ p.content.length := by
      rw [p.length_content, List.length_take]
      exact Nat.min_le_left _ _
    rw [Bytes.length_overwrite h, p.length_content]

/-- Writes bytes over the front of the storage and makes them the ones that count. -/
def store (p : Packet) (bytes : Bytes) : Packet :=
  (p.fill bytes).setSize (bytes.take packetCapacity).length

def ofBytes (bytes : Bytes) : Packet := empty.store bytes

def setByte (p : Packet) (index : Nat) (byte : UInt8) : Packet where
  content := p.content.set index byte
  size := p.size
  length_content := by rw [List.length_set, p.length_content]

/-- Writes a message's frame at the start of the storage.  On success the outcome is the
length of the frame, and the frame is what counts. -/
def encode (p : Packet) (m : Message) : Except Fault Nat × Packet :=
  let outcome := (m.encode p.content).1
  (outcome,
    { content := (m.encode p.content).2
      size := match outcome with
        | .ok length => length
        | .error _ => p.size
      length_content := by rw [Message.length_encode, p.length_content] })

/-- How a packet is shown: its size field and the bytes that count. -/
def describe (p : Packet) : String :=
  "PacketBuffer \x7b size: " ++ toString p.size ++ ", content: [" ++
    ", ".intercalate (p.bytes.map fun b => toString b.toNat) ++ "] \x7d"

@[simp] theorem bytes_store (p : Packet) (bytes : Bytes) :
    (p.store bytes).bytes = bytes.take packetCapacity := by
  show (bytes.take packetCapacity ++ p.content.drop _).take (bytes.take packetCapacity).length = _
  rw [List.take_left]

end Packet
end WrenchLink

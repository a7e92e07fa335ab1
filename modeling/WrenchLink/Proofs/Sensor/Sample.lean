/-
Which datagrams are broadcasts, and what they hold.

A datagram is a broadcast if, as far as a packet holds it, it is as long as a broadcast's
frame and its header says that it is one.  Its values are the twelve words behind the header,
bit for bit.  The header's size is not looked at, nor is what follows the frame.
-/
import WrenchLink.Proofs.Message.Grammar
import WrenchLink.Proofs.Manager.History
import WrenchLink.Sensor.Basic

namespace WrenchLink
namespace Sample

def channel (frame : Bytes) (k : Nat) : Binary32 :=
  ⟨UInt32.ofNat (Bytes.toNat ((frame.drop (4 + 4 * k)).take 4))⟩

def inFrame (frame : Bytes) : Sample where
  forceTorque := ⟨channel frame 0, channel frame 1, channel frame 2, channel frame 3,
    channel frame 4, channel frame 5⟩
  raw := ⟨channel frame 6, channel frame 7, channel frame 8, channel frame 9,
    channel frame 10, channel frame 11⟩

/-- The sample in a datagram, if the datagram is a broadcast. -/
def broadcastIn? (bytes : Bytes) : Option Sample :=
  let frame := bytes.take packetCapacity
  if 52 ≤ frame.length ∧ Message.frameNumber frame = 23 then some (inFrame frame) else none

theorem decode_channel {frame : Bytes} {k : Nat} (h : 8 + 4 * k ≤ frame.length) :
    Scalar.f32.decode (frame.drop (4 + 4 * k)) = .ok (channel frame k) := by
  have hfit : Scalar.f32.advance ≤ (frame.drop (4 + 4 * k)).length := by
    rw [List.length_drop]
    show 4 ≤ _
    omega
  rw [Scalar.decode_eq, if_pos hfit]
  rfl

theorem read_channel {name : String} {rest : List Field} {frame : Bytes} {k : Nat}
    {more : Values rest} (h : 8 + 4 * k ≤ frame.length)
    (hrest : Values.read rest (frame.drop (4 + 4 * (k + 1))) = .ok more) :
    Values.read (⟨name, .f32⟩ :: rest) (frame.drop (4 + 4 * k)) = .ok (channel frame k, more) := by
  have hdrop : (frame.drop (4 + 4 * k)).drop Scalar.f32.advance =
      frame.drop (4 + 4 * (k + 1)) := by
    rw [List.drop_drop]
    congr 1
  rw [← hdrop] at hrest
  exact Values.read_cons_eq_ok_iff.mpr ⟨decode_channel h, hrest⟩

theorem read_broadcast {frame : Bytes} (h : 52 ≤ frame.length) :
    ∃ values, Values.read MessageId.broadcastSensorData.fields (frame.drop headerSize) =
      .ok values ∧ ofValues values = inFrame frame := by
  refine ⟨(channel frame 0, channel frame 1, channel frame 2, channel frame 3, channel frame 4,
    channel frame 5, channel frame 6, channel frame 7, channel frame 8, channel frame 9,
    channel frame 10, channel frame 11, ()), ?_, rfl⟩
  show Values.read _ (frame.drop (4 + 4 * 0)) = _
  iterate 12 refine read_channel (by omega) ?_
  rfl

/-- A frame that is too short is no broadcast, and neither is one of another number. -/
theorem ofDatagram?_eq (frame : Bytes) :
    ofDatagram? frame =
      if 52 ≤ frame.length ∧ Message.frameNumber frame = 23 then some (inFrame frame)
      else none := by
  have hdecode := Message.decodeAs_eq .broadcastSensorData frame
  by_cases hlength : 52 ≤ frame.length
  · have hheader : headerSize ≤ frame.length := Nat.le_trans (by decide) hlength
    obtain ⟨values, hread, hvalues⟩ := read_broadcast hlength
    rw [if_pos hheader, hread] at hdecode
    have hexpect := Message.expect_leadingWord frame values .broadcastSensorData
    by_cases hnumber : Message.frameNumber frame = MessageId.broadcastSensorData.number
    · rw [if_pos hnumber] at hexpect
      rw [if_pos ⟨hlength, hnumber⟩, ← hvalues]
      simp only [ofDatagram?, hdecode, Except.map, hexpect]
    · rw [if_neg hnumber] at hexpect
      rw [if_neg fun h => hnumber h.2]
      simp only [ofDatagram?, hdecode, Except.map, hexpect]
  · rw [if_neg fun h => hlength h.1, ofDatagram?, hdecode]
    by_cases hheader : headerSize ≤ frame.length
    · rw [if_pos hheader]
      cases hread : Values.read MessageId.broadcastSensorData.fields (frame.drop headerSize) with
      | error fault => rfl
      | ok values =>
        -- Whatever is read, there was room for it.
        have hroom := (Values.write_of_read (MessageId.ne_bool_of_mem_fields _) hread).1
        have hspan : Field.span MessageId.broadcastSensorData.fields = 48 := rfl
        have hsize : headerSize = 4 := rfl
        rw [List.length_drop] at hroom
        omega
    · rw [if_neg hheader]

end Sample
end WrenchLink

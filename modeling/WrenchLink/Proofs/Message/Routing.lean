/-
Reading a frame as an expected kind, and reading it as the kind that its header names.

The second is the first for the kind of the number in the header: `decode_of_frameNumber`.  A
frame that is read as another kind is given away by `Decoded.expect`, which compares the same
number, so the two ways of reading agree on every frame: `decodeAs_agrees_with_decode`.
-/
import WrenchLink.Proofs.Message.Grammar

namespace WrenchLink
namespace Decoded

variable {α : Type} {d : Decoded α} {id : MessageId}

theorem expect_eq_ok_iff {content : α} :
    d.expect id = .ok content ↔ d.header.id.toNat = id.number ∧ content = d.content := by
  rw [expect]
  split
  · rename_i hid
    rw [Except.ok.injEq]
    exact ⟨fun h => ⟨hid, h.symm⟩, fun h => h.2.symm⟩
  · rename_i hid
    exact iff_of_false (by simp) fun h => hid h.1

theorem expect_eq_error_iff {fault : Fault} :
    d.expect id = .error fault ↔
      d.header.id.toNat ≠ id.number ∧
        fault = .protocolMismatch id.number d.header.id.toNat := by
  rw [expect]
  split
  · rename_i hid
    exact iff_of_false (by simp) fun h => h.1 hid
  · rename_i hid
    rw [Except.error.injEq]
    exact ⟨fun h => ⟨hid, h.symm⟩, fun h => h.2.symm⟩

end Decoded

namespace Message

/-- Whatever kind a frame is read as, the header is the one in its leading word. -/
theorem header_of_decodeAs {id : MessageId} {frame : Bytes} {d : Decoded (Values id.fields)}
    {n : Nat} (h : decodeAs id frame = .ok (d, n)) :
    d.header = Header.ofWord frame.leadingWord := by
  rw [decodeAs_eq] at h
  split at h
  · cases hread : Values.read id.fields (frame.drop headerSize) with
    | error fault =>
      rw [hread] at h
      cases h
    | ok values =>
      rw [hread] at h
      cases h
      rfl
  · cases h

theorem toNat_id_of_decodeAs {id : MessageId} {frame : Bytes} {d : Decoded (Values id.fields)}
    {n : Nat} (h : decodeAs id frame = .ok (d, n)) : d.header.id.toNat = frameNumber frame := by
  rw [header_of_decodeAs h, Header.toNat_id_ofWord frame.leadingWord_lt, frameNumber]

/-- A frame is read as the kind of its number, with the same faults. -/
theorem decode_of_frameNumber {id : MessageId} {frame : Bytes}
    (h : frameNumber frame = id.number) :
    decode frame = (decodeAs id frame).map fun (d, n) => (⟨d.header, ⟨id, d.content⟩⟩, n) := by
  rw [decodeAs_eq]
  by_cases hlength : headerSize ≤ frame.length
  · rw [decode_of_number hlength h, if_pos hlength]
    cases Values.read id.fields (frame.drop headerSize) <;> rfl
  · rw [decode_of_short hlength, if_neg hlength]
    rfl

theorem frameNumber_of_decode {frame : Bytes} {d : Decoded Message} {n : Nat}
    (h : decode frame = .ok (d, n)) : frameNumber frame = d.content.id.number :=
  (decode_eq_ok_iff.mp h).2.1

/-- Reading a frame as an expected kind and then comparing the number in the header gives a
content exactly if reading it as what the header names gives that content of that kind, with
the same header and length.  If only the comparison fails, it reports the expected number and
the one in the frame, and the frame is not read as a message of the expected kind. -/
theorem decodeAs_agrees_with_decode (id : MessageId) (frame : Bytes) :
    (∀ header values n,
      (decodeAs id frame = .ok (⟨header, values⟩, n) ∧
          Decoded.expect ⟨header, values⟩ id = .ok values) ↔
        decode frame = .ok (⟨header, ⟨id, values⟩⟩, n)) ∧
    ∀ decoded n, decodeAs id frame = .ok (decoded, n) → ∀ fault,
      decoded.expect id = .error fault →
        fault = .protocolMismatch id.number (frameNumber frame) ∧
          ((∃ refused, decode frame = .error refused) ∨
            ∃ routed length, decode frame = .ok (routed, length) ∧ routed.content.id ≠ id) := by
  constructor
  · intro header values n
    constructor
    · rintro ⟨hread, hexpect⟩
      have hid := toNat_id_of_decodeAs hread
      rw [(Decoded.expect_eq_ok_iff.mp hexpect).1] at hid
      rw [decode_of_frameNumber hid.symm, hread]
      rfl
    · intro hrouted
      have hid : frameNumber frame = id.number := frameNumber_of_decode hrouted
      rw [decode_of_frameNumber hid] at hrouted
      cases hread : decodeAs id frame with
      | error fault =>
        rw [hread] at hrouted
        cases hrouted
      | ok read =>
        rw [hread] at hrouted
        cases hrouted
        exact ⟨rfl, Decoded.expect_eq_ok_iff.mpr ⟨(toNat_id_of_decodeAs hread).trans hid, rfl⟩⟩
  · intro decoded n hread fault hexpect
    obtain ⟨hother, rfl⟩ := Decoded.expect_eq_error_iff.mp hexpect
    rw [toNat_id_of_decodeAs hread] at hother ⊢
    refine ⟨rfl, ?_⟩
    cases hrouted : decode frame with
    | error refused => exact Or.inl ⟨refused, rfl⟩
    | ok read =>
      refine Or.inr ⟨read.1, read.2, rfl, fun hsame => hother ?_⟩
      rw [frameNumber_of_decode hrouted, hsame]

/-- A reply to one request read as the reply to another, whose fields it happens to have: the
comparison refuses what was read, and the header names the first. -/
example :
    let frame := Message.frame ⟨.replyFault, ((7 : UInt32), ())⟩
    (decodeAs .replyBoardInfo frame).map (fun (d, _) => d.content) = .ok ((7 : UInt32), ()) ∧
      ((decodeAs .replyBoardInfo frame).bind fun (d, _) => d.expect .replyBoardInfo) =
        .error (.protocolMismatch 2 6) ∧
      (decode frame).map (fun (d, _) => d.content) = .ok ⟨.replyFault, ((7 : UInt32), ())⟩ :=
  ⟨rfl, rfl, rfl⟩

end Message
end WrenchLink

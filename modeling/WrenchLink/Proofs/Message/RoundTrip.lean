/-
Frames and messages determine each other.

`decode_encode` is the way from a message through any buffer and back.  `encode_of_decode`
is the way from any bytes that read as a message: writing the message over them changes
nothing but the header's size and encoding.
-/
import WrenchLink.Proofs.Message.Frame

namespace WrenchLink
namespace Message

theorem length_encode_buffer (m : Message) {buffer : Bytes}
    (h : frameLength m.id ≤ buffer.length) :
    ((frameHeader m.id).pack ++
      Values.write m.id.fields m.values (buffer.drop headerSize)).length = buffer.length := by
  have hlength := frameLength_eq m.id
  have hdrop : (buffer.drop headerSize).length = buffer.length - headerSize := List.length_drop
  rw [List.length_append, Header.length_pack, Values.length_write m.values (by omega), hdrop]
  omega

/-- A written frame reads as its message, whatever follows it. -/
theorem decode_written (m : Message) {buffer : Bytes} (h : frameLength m.id ≤ buffer.length)
    (rest : Bytes) :
    decode (((frameHeader m.id).pack ++
        Values.write m.id.fields m.values (buffer.drop headerSize)).take (frameLength m.id) ++
          rest) =
      .ok (⟨frameHeader m.id, m⟩, frameLength m.id) := by
  have hlength := frameLength_eq m.id
  let fields := Values.write m.id.fields m.values (buffer.drop headerSize)
  have hspan : Field.span m.id.fields ≤ (buffer.drop headerSize).length := by
    rw [List.length_drop]
    omega
  have hfields : fields.length = (buffer.drop headerSize).length :=
    Values.length_write m.values hspan
  have htake : ((frameHeader m.id).pack ++ fields).take (frameLength m.id) ++ rest =
      (frameHeader m.id).pack ++ (fields.take (Field.span m.id.fields) ++ rest) := by
    rw [hlength, List.take_append, Header.length_pack,
      List.take_of_length_le (by rw [Header.length_pack]; omega), Nat.add_sub_cancel_left,
      List.append_assoc]
  have hword : ((frameHeader m.id).pack ++
      (fields.take (Field.span m.id.fields) ++ rest)).leadingWord = (frameHeader m.id).word :=
    Header.leadingWord_pack _ _
  have hread : Values.read m.id.fields (fields.take (Field.span m.id.fields) ++ rest) =
      .ok m.values := by
    rw [← Values.read_write m.values hspan]
    apply Values.read_congr
    · rw [List.length_append, List.length_take, hfields]
      omega
    · intro i hi
      have hlt : i < Field.span m.id.fields := Field.lt_span_of_carries hi
      rw [List.getElem?_append_left (by rw [List.length_take]; omega),
        List.getElem?_take_of_lt hlt]
  have hheader : Header.ofWord (frameHeader m.id).word = frameHeader m.id :=
    Header.ofWord_word_of_fits (fits_frameHeader m.id)
  have hid := Header.toNat_id_ofWord (frameHeader m.id).word_lt
  rw [hheader, toNat_frameHeader_id] at hid
  rw [htake, decode_eq_ok_iff, hword, hheader, List.drop_left' (Header.length_pack _)]
  refine ⟨?_, hid.symm, rfl, hread, rfl⟩
  rw [List.length_append, Header.length_pack]
  omega

/-- The frame of a message, as it is written into a buffer. -/
def frameIn (m : Message) (buffer : Bytes) : Bytes :=
  (m.encode buffer).2.take (frameLength m.id)

theorem length_frameIn (m : Message) {buffer : Bytes} (h : frameLength m.id ≤ buffer.length) :
    (m.frameIn buffer).length = frameLength m.id := by
  rw [frameIn, List.length_take, encode_eq m h, length_encode_buffer m h, Nat.min_eq_left h]

theorem decode_frameIn (m : Message) {buffer : Bytes} (h : frameLength m.id ≤ buffer.length)
    (rest : Bytes) :
    decode (m.frameIn buffer ++ rest) = .ok (⟨frameHeader m.id, m⟩, frameLength m.id) := by
  rw [frameIn, encode_eq m h]
  exact decode_written m h rest

theorem getElem?_frameIn {m : Message} {buffer : Bytes} {p : Nat} (hp : p < frameLength m.id) :
    (m.frameIn buffer)[p]? = (m.encode buffer).2[p]? :=
  List.getElem?_take_of_lt hp

theorem getElem?_frameIn_of_isPadding (m : Message) {buffer : Bytes}
    (h : frameLength m.id ≤ buffer.length) {p : Nat} (hp : isPadding m.id p = true) :
    (m.frameIn buffer)[p]? = buffer[p]? := by
  have hlength := frameLength_eq m.id
  have hheader := headerSize_le_of_isPadding hp
  have hcarries : Field.carries m.id.fields (p - headerSize) = false := by
    rw [carries_eq m.id hheader, hp, Bool.not_true, Bool.and_false]
  have hindex : headerSize + (p - headerSize) = p := by omega
  rw [getElem?_frameIn (lt_frameLength_of_isPadding hp), getElem?_encode m h hheader,
    Values.getElem?_write_of_not_carries m.values (by rw [List.length_drop]; omega) hcarries,
    List.getElem?_drop, hindex]

/-- But for its padding, the frame of a message is the same in every buffer. -/
theorem getElem?_frameIn_of_not_isPadding (m : Message) {buffer other : Bytes}
    (h : frameLength m.id ≤ buffer.length) (hother : frameLength m.id ≤ other.length) {p : Nat}
    (hp : isPadding m.id p = false) :
    (m.frameIn buffer)[p]? = (m.frameIn other)[p]? := by
  have hlength := frameLength_eq m.id
  by_cases hend : p < frameLength m.id
  · rw [getElem?_frameIn hend, getElem?_frameIn hend]
    by_cases hheader : headerSize ≤ p
    · have hcarries : Field.carries m.id.fields (p - headerSize) = true := by
        rw [carries_eq m.id hheader, hp, decide_eq_true hend]
        rfl
      rw [getElem?_encode m h hheader, getElem?_encode m hother hheader]
      exact Values.getElem?_write_of_carries m.values (by rw [List.length_drop]; omega)
        (by rw [List.length_drop]; omega) hcarries
    · have hpack := (frameHeader m.id).length_pack
      rw [encode_eq m h, encode_eq m hother, List.getElem?_append_left (by omega),
        List.getElem?_append_left (by omega)]
  · rw [List.getElem?_eq_none (by rw [length_frameIn m h]; omega),
      List.getElem?_eq_none (by rw [length_frameIn m hother]; omega)]

/-- Any buffer with room for a message takes its frame.  Outside the frame and in the padding
of octets the buffer keeps its bytes, the header tells the id and the length of the frame,
and the frame reads as the message, whatever follows it. -/
theorem decode_encode (m : Message) {buffer : Bytes} (h : frameLength m.id ≤ buffer.length) :
    ∃ header written,
      m.encode buffer = (.ok (frameLength m.id), written) ∧
      written.length = buffer.length ∧
      (∀ p, frameLength m.id ≤ p ∨ isPadding m.id p = true → written[p]? = buffer[p]?) ∧
      header.id.toNat = m.id.number ∧ header.size.toNat = frameLength m.id ∧
      header.encoding = encodingVersion ∧
      Header.decode written = .ok header ∧
      ∀ rest, decode (written.take (frameLength m.id) ++ rest) =
        .ok (⟨header, m⟩, frameLength m.id) := by
  refine ⟨frameHeader m.id, _, encode_eq m h, length_encode_buffer m h, ?_,
    toNat_frameHeader_id m.id, toNat_frameHeader_size m.id, rfl,
    Header.decode_pack (fits_frameHeader m.id) _, decode_written m h⟩
  intro p hp
  have hlength := frameLength_eq m.id
  have hheader : headerSize ≤ p := by
    rcases hp with hp | hp
    · omega
    · simp only [isPadding, Bool.and_eq_true, decide_eq_true_eq] at hp
      exact hp.1.1
  have hcarries : Field.carries m.id.fields (p - headerSize) = false := by
    rw [carries_eq m.id hheader]
    rcases hp with hp | hp
    · rw [decide_eq_false (by omega), Bool.false_and]
    · rw [hp, Bool.not_true, Bool.and_false]
  have hindex : headerSize + (p - headerSize) = p := by omega
  rw [List.getElem?_append_right (by rw [Header.length_pack]; exact hheader), Header.length_pack,
    Values.getElem?_write_of_not_carries m.values (by rw [List.length_drop]; omega) hcarries,
    List.getElem?_drop, hindex]

def sampleAddress : Message :=
  ⟨.setMacAddress, ((1 : UInt8), (2 : UInt8), (3 : UInt8), (4 : UInt8), (5 : UInt8), (6 : UInt8),
    (0 : UInt8), (0 : UInt8), ())⟩

/-- The address in a used buffer: the padding and the bytes behind the frame survive, and the
address is read back. -/
theorem decode_encode_sampleAddress :
    frameLength sampleAddress.id ≤ (List.replicate 40 (0xaa : UInt8)).length ∧
      ∃ header written,
        sampleAddress.encode (List.replicate 40 0xaa) = (.ok 36, written) ∧
        written[5]? = some 0xaa ∧ written[36]? = some 0xaa ∧
        decode (written.take 36 ++ [0xff]) = .ok (⟨header, sampleAddress⟩, 36) := by
  have hroom : frameLength sampleAddress.id ≤ (List.replicate 40 (0xaa : UInt8)).length := by
    decide
  refine ⟨hroom, ?_⟩
  obtain ⟨header, written, hencode, -, hkept, -, -, -, -, hdecode⟩ :=
    decode_encode sampleAddress hroom
  exact ⟨header, written, hencode, hkept 5 (Or.inr (by decide)), hkept 36 (Or.inl (by decide)),
    hdecode [0xff]⟩

/-- A frame that reads as a message holds the message: what writing leaves of it. -/
theorem encode_eq_of_decode {frame : Bytes} {h : Header} {m : Message} {n : Nat}
    (hd : decode frame = .ok (⟨h, m⟩, n)) :
    n ≤ frame.length ∧
      m.encode frame = (.ok n, (frameHeader m.id).pack ++ frame.drop headerSize) := by
  obtain ⟨hheader, -, -, hread, rfl⟩ := decode_eq_ok_iff.mp hd
  obtain ⟨hspan, hwrite⟩ := Values.write_of_read m.id.ne_bool_of_mem_fields hread
  have hlength := frameLength_eq m.id
  rw [List.length_drop] at hspan
  have hroom : frameLength m.id ≤ frame.length := by omega
  refine ⟨hroom, ?_⟩
  rw [encode_eq m hroom, hwrite]

/-- Frames that read as the same message differ in headers and padding only. -/
theorem getElem?_eq_of_decode {frame other : Bytes} {h h' : Header} {m : Message} {n n' : Nat}
    (hd : decode frame = .ok (⟨h, m⟩, n)) (hd' : decode other = .ok (⟨h', m⟩, n')) {p : Nat}
    (hheader : headerSize ≤ p) (hp : p < n) (hpadding : isPadding m.id p = false) :
    frame[p]? = other[p]? := by
  obtain ⟨-, -, -, hread, rfl⟩ := decode_eq_ok_iff.mp hd
  obtain ⟨-, -, -, hread', -⟩ := decode_eq_ok_iff.mp hd'
  obtain ⟨hspan, hwrite⟩ := Values.write_of_read m.id.ne_bool_of_mem_fields hread
  obtain ⟨hspan', hwrite'⟩ := Values.write_of_read m.id.ne_bool_of_mem_fields hread'
  have hcarries : Field.carries m.id.fields (p - headerSize) = true := by
    rw [carries_eq m.id hheader, decide_eq_true hp, hpadding]
    rfl
  have hindex : headerSize + (p - headerSize) = p := by omega
  have hbyte := Values.getElem?_write_of_carries m.values hspan hspan' hcarries
  rw [hwrite, hwrite', List.getElem?_drop, List.getElem?_drop, hindex] at hbyte
  exact hbyte

/-- Writing a message over the bytes that it was read from changes only the header's size and
encoding, which become those of the frame, so a frame that tells its own length is written
back byte for byte.  Two byte strings that read as the same message differ, within the frame,
in the size and encoding of the header and in the padding of octets only. -/
theorem encode_of_decode {frame : Bytes} {h : Header} {m : Message} {n : Nat}
    (hd : decode frame = .ok (⟨h, m⟩, n)) :
    n ≤ frame.length ∧ m.id.number = h.id.toNat ∧
      (∃ size written, size.toNat = n ∧ m.encode frame = (.ok n, written) ∧
        written.drop headerSize = frame.drop headerSize ∧
        Header.decode written = .ok { h with size := size, encoding := encodingVersion }) ∧
      (h.size.toNat = n → h.encoding = encodingVersion → m.encode frame = (.ok n, frame)) ∧
      ∀ other h' n', decode other = .ok (⟨h', m⟩, n') →
        n' = n ∧ frame.leadingWord / 1048576 = other.leadingWord / 1048576 ∧
          ∀ p, headerSize ≤ p → p < n → isPadding m.id p = false → frame[p]? = other[p]? := by
  obtain ⟨hroom, hencode⟩ := encode_eq_of_decode hd
  obtain ⟨hlength, hnumber, hh, -, hn⟩ := decode_eq_ok_iff.mp hd
  have hid : h.id.toNat = m.id.number := by
    rw [hh, Header.toNat_id_ofWord frame.leadingWord_lt, hnumber]
  have hsize : (UInt16.ofNat n).toNat = n := by
    rw [hn]
    exact toNat_frameHeader_size m.id
  have hheader : frameHeader m.id =
      { h with size := UInt16.ofNat n, encoding := encodingVersion } := by
    rw [frameHeader, ← hid, UInt16.ofNat_toNat, ← hn]
  refine ⟨hroom, hid.symm, ⟨UInt16.ofNat n, _, hsize, hencode, ?_, ?_⟩, ?_, ?_⟩
  · rw [List.drop_left' (Header.length_pack _)]
  · rw [← hheader]
    exact Header.decode_pack (fits_frameHeader m.id) _
  · intro hown hversion
    have hsame : frameHeader m.id = h := by
      rw [hheader, ← hown, UInt16.ofNat_toNat, ← hversion]
    rw [hencode, hsame, hh, Header.pack_ofWord hlength, List.take_append_drop]
  · intro other h' n' hd'
    obtain ⟨-, hnumber', -, -, hn'⟩ := decode_eq_ok_iff.mp hd'
    refine ⟨by rw [hn', hn], by rw [hnumber, hnumber'], ?_⟩
    intro p hp hlt hpadding
    exact getElem?_eq_of_decode hd hd' hp hlt hpadding

/-- A frame of the address with a wrong size, an odd encoding and padding in use. -/
def oddFrame : Bytes :=
  [7, 0, 0xc3, 1, 1, 0xaa, 0xaa, 0xaa, 2, 0xaa, 0xaa, 0xaa, 3, 0xaa, 0xaa, 0xaa, 4, 0xaa, 0xaa,
    0xaa, 5, 0xaa, 0xaa, 0xaa, 6, 0xaa, 0xaa, 0xaa, 0, 0xaa, 0xaa, 0xaa, 0, 0xaa, 0xaa, 0xaa, 0xbb]

theorem encode_of_decode_oddFrame :
    decode oddFrame = .ok (⟨⟨28, 7, 3⟩, sampleAddress⟩, 36) ∧
      ∃ size written, size.toNat = 36 ∧ sampleAddress.encode oddFrame = (.ok 36, written) ∧
        written.drop headerSize = oddFrame.drop headerSize ∧
        Header.decode written = .ok ⟨28, size, encodingVersion⟩ := by
  have hd : decode oddFrame = .ok (⟨⟨28, 7, 3⟩, sampleAddress⟩, 36) := rfl
  exact ⟨hd, (encode_of_decode hd).2.2.1⟩

end Message
end WrenchLink

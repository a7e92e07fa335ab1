/-
What is set can be read back.

Behind the header of a request's frame lies its payload, and the payload alone gives back the
values that were written (`Message.read_payload`).  So a board that hands a payload back, in a
reply of the kind that is awaited and behind whatever header, answers with what was set:
`ReadsBack` pairs the requests that set a value with those that get it, and
`payload_reads_back` says what becomes of the value in between.
-/
import WrenchLink.Proofs.Session.Sending

namespace WrenchLink

variable {τ : Type}

def Bytes.payload (frame : Bytes) : Bytes := frame.drop headerSize

namespace Request

/-- The second request gets what the first sets, and the answer to it says what that was.  Of a
hardware address, the padding is not kept. -/
inductive ReadsBack : Request → Request → Answer → Prop where
  | ipAddress (a : Address) : ReadsBack (.setIpAddress a) .getIpAddress (.address a)
  | netmask (a : Address) : ReadsBack (.setNetmask a) .getNetmask (.address a)
  | gateway (a : Address) : ReadsBack (.setGateway a) .getGateway (.address a)
  | matrixRow (row : UInt32) (c : Axes Binary32) :
    ReadsBack (.setMatrixRow row c) (.getMatrixRow row) (.coefficients c)
  | inventory (i : Inventory) : ReadsBack (.writeInventory i) .readInventory (.inventory i)
  | macAddress (a : MacAddress) :
    ReadsBack (.setMacAddress a) .getMacAddress (.mac { a with o6 := 0, o7 := 0 })

def setsAddress? : Request → Option Address
  | .setIpAddress a | .setNetmask a | .setGateway a => some a
  | _ => none

end Request

namespace Message

/-- The request that sets what the message carries. -/
def setting? : Message → Option Request
  | ⟨.setIpAddress, (word, ())⟩ => some (.setIpAddress (.ofWord word))
  | ⟨.setNetmask, (word, ())⟩ => some (.setNetmask (.ofWord word))
  | ⟨.setGateway, (word, ())⟩ => some (.setGateway (.ofWord word))
  | ⟨.setCalibrationMatrixRow, (row, c0, c1, c2, c3, c4, c5, ())⟩ =>
    some (.setMatrixRow row ⟨c0, c1, c2, c3, c4, c5⟩)
  | ⟨.saveInventoryDataOnFlash, (design, version, revision, serial, date, ())⟩ =>
    some (.writeInventory ⟨design, version, revision, serial, date⟩)
  | ⟨.setMacAddress, (m0, m1, m2, m3, m4, m5, m6, m7, ())⟩ =>
    some (.setMacAddress ⟨m0, m1, m2, m3, m4, m5, m6, m7⟩)
  | _ => none

theorem headerSize_le_length_frameIn (m : Message) {buffer : Bytes}
    (h : frameLength m.id ≤ buffer.length) : headerSize ≤ (m.frameIn buffer).length := by
  rw [m.length_frameIn h, frameLength]
  omega

theorem length_payload (m : Message) {buffer : Bytes} (h : frameLength m.id ≤ buffer.length) :
    (m.frameIn buffer).payload.length = slotSize * m.id.fields.length := by
  rw [Bytes.payload, List.length_drop, m.length_frameIn h, frameLength]
  omega

theorem read_payload (m : Message) {buffer : Bytes} (h : frameLength m.id ≤ buffer.length)
    (rest : Bytes) :
    Values.read m.id.fields ((m.frameIn buffer).payload ++ rest) = .ok m.values := by
  obtain ⟨-, -, -, hread, -⟩ := decode_eq_ok_iff.mp (m.decode_frameIn h rest)
  rwa [List.drop_append_of_le_length (m.headerSize_le_length_frameIn h)] at hread

theorem eq_of_payload {m m' : Message} {buffer buffer' : Bytes}
    (h : frameLength m.id ≤ buffer.length) (h' : frameLength m'.id ≤ buffer'.length)
    (hid : m.id = m'.id) (hpayload : (m.frameIn buffer).payload = (m'.frameIn buffer').payload) :
    m = m' := by
  have hread := m.read_payload h []
  have hread' := m'.read_payload h' []
  rw [hpayload] at hread
  obtain ⟨id, values⟩ := m
  obtain ⟨id', values'⟩ := m'
  cases hid
  have hvalues : values = values' := Except.ok.inj (hread.symm.trans hread')
  rw [hvalues]

/-- A payload of one word is that word. -/
theorem payload_of_word {name : String} {payload : Bytes} {w : UInt32}
    (hlength : payload.length = slotSize)
    (h : Values.read [⟨name, .u32⟩] payload = .ok (w, ())) :
    payload = Bytes.ofNat slotSize w.toNat := by
  have hword := (Values.read_cons_eq_ok_iff.mp h).1
  have hwritten := (Scalar.overwrite_bytes_of_decode (k := .u32) (by decide) hword).2
  have hbytes : (Scalar.bytes .u32 w).length = slotSize := Scalar.length_bytes .u32 w
  rw [Bytes.overwrite, hbytes, ← hlength, List.drop_length, List.append_nil] at hwritten
  exact hwritten.symm

end Message

namespace Request

variable {setter setter' getter getter' : Request} {answer answer' : Answer}

theorem ReadsBack.answer_eq (h : setter.ReadsBack getter answer) :
    ∃ awaited, getter.awaited = some awaited ∧
      ∀ ahead, Values.read setter.message.id.fields ahead = .ok setter.message.values →
        (Values.read awaited.reply.fields ahead).map awaited.answer = .ok answer := by
  cases h with
  | ipAddress a | netmask a | gateway a =>
    refine ⟨_, rfl, fun ahead hread => ?_⟩
    rw [← a.ofWord_toWord]
    exact congrArg _ hread
  | matrixRow row c => exact ⟨_, rfl, fun ahead hread => congrArg _ hread⟩
  | inventory i => exact ⟨_, rfl, fun ahead hread => congrArg _ hread⟩
  | macAddress a => exact ⟨_, rfl, fun ahead hread => congrArg _ hread⟩

theorem awaits_of_read {awaited : Awaited} (hawaited : getter.awaited = some awaited)
    {bytes : Bytes}
    (hread : (Values.read awaited.reply.fields bytes).map awaited.answer = .ok answer) :
    getter.Awaits awaited.reply := by
  cases hvalues : Values.read awaited.reply.fields bytes with
  | error fault =>
    rw [hvalues] at hread
    cases hread
  | ok values => exact ⟨values, awaited.answer values, (answeredBy_iff hawaited).mpr rfl⟩

theorem ReadsBack.setting?_message (h : setter.ReadsBack getter answer) :
    setter.message.setting? = some setter.asSent := by
  cases h with
  | ipAddress a => exact congrArg (fun b => some (setIpAddress b)) a.ofWord_toWord
  | netmask a => exact congrArg (fun b => some (setNetmask b)) a.ofWord_toWord
  | gateway a => exact congrArg (fun b => some (setGateway b)) a.ofWord_toWord
  | matrixRow | inventory | macAddress => rfl

theorem eq_of_asSent_eq (h : setter'.asSent = setter.asSent)
    (hother : ∀ a, setter ≠ .setMacAddress a) : setter' = setter := by
  have hsetter : setter.asSent = setter := by
    cases setter with
    | setMacAddress a => exact absurd rfl (hother a)
    | _ => rfl
  rw [hsetter] at h
  cases setter' with
  | setMacAddress a => exact absurd h.symm (hother a.cleared)
  | _ => exact h

theorem payload_of_setsAddress? {a : Address} (h : setter.setsAddress? = some a) {buffer : Bytes}
    (hroom : Message.frameLength setter.message.id ≤ buffer.length) :
    (setter.message.frameIn buffer).payload = Bytes.ofNat slotSize a.toWord.toNat := by
  have hlength := setter.message.length_payload hroom
  have hread := setter.message.read_payload hroom []
  rw [List.append_nil] at hread
  cases setter with
  | setIpAddress | setNetmask | setGateway =>
    cases h
    exact Message.payload_of_word hlength hread
  | _ => cases h

end Request

namespace Sensor

theorem readReply_of_payload {awaited : Awaited} {head ahead : Bytes}
    (hhead : head.length = headerSize) (hnumber : Message.frameNumber head = awaited.reply.number) :
    readReply awaited (head ++ ahead) =
      (Values.read awaited.reply.fields ahead).map awaited.answer := by
  have hword : Message.frameNumber (head ++ ahead) = awaited.reply.number := by
    rw [← hnumber, Message.frameNumber, Message.frameNumber, Bytes.leadingWord, Bytes.leadingWord,
      List.take_append_of_le_length (Nat.le_of_eq hhead.symm)]
  rw [readReply_eq awaited (by rw [List.length_append]; omega), List.drop_left' hhead]
  cases Values.read awaited.reply.fields ahead with
  | error fault => rfl
  | ok values => exact if_pos hword

end Sensor

namespace Session

theorem outcome_of_payload {t : Session τ} {index : Nat} {y : Sensor} {b : Board (Callback τ)}
    {stream : Stream} (h : t.Facing index y b stream) {getter : Request} {awaited : Awaited}
    (hawaited : getter.awaited = some awaited) {head payload rest : Bytes} {answer : Answer}
    (hhead : head.length = headerSize) (hnumber : Message.frameNumber head = awaited.reply.number)
    (hpending : stream.pending = head ++ payload ++ rest)
    (hfits : headerSize + payload.length ≤ packetCapacity)
    (hread : ∀ rest, (Values.read awaited.reply.fields (payload ++ rest)).map awaited.answer =
      .ok answer) {net : Network} {count : Nat}
    (htaken : net.takes .tcp b.tcp.peer (getter.message.frameIn y.scratch.content) = .ok count) :
    (t.step net (.request index getter)).outcome = .ok (.answer answer) := by
  have hne : stream.pending ≠ [] := by
    intro hnil
    have hlength := congrArg List.length (hpending.symm.trans hnil)
    have hpositive : 0 < headerSize := by decide
    simp only [List.length_append, List.length_nil] at hlength
    omega
  -- One read takes the payload, and as much of what follows as still fits.
  have hahead : stream.ahead =
      head ++ (payload ++ rest.take (packetCapacity - (head ++ payload).length)) := by
    rw [Stream.ahead, hpending, List.take_append,
      List.take_of_length_le (by rw [List.length_append]; omega), List.append_assoc]
  rw [outcome_of_pending h hawaited htaken hne, hahead,
    Sensor.readReply_of_payload hhead hnumber, hread]
  rfl

/-- Whoever sets a value and whoever asks for it later: if the payload that was sent comes back
behind the header of an awaited reply, the answer is the value that was set, but for the padding
of a hardware address.  An address travels as one word, its first octet most significant.  So the
payload tells values that are set apart. -/
theorem payload_reads_back {setter getter : Request} {answer : Answer}
    (h : setter.ReadsBack getter answer) {s : Session τ} {net : Network} {index : Nat} {x : Sensor}
    {frame : Bytes} (hsent : s.Sends net index x setter frame) :
    (∃ id, getter.Awaits id ∧
      ∀ (t : Session τ) (net' : Network) (index' : Nat) (y : Sensor) (b : Board (Callback τ))
        (stream : Stream) (head rest : Bytes) (count : Nat), t.Facing index' y b stream →
        net'.takes .tcp b.tcp.peer (getter.message.frameIn y.scratch.content) = .ok count →
        head.length = headerSize → Message.frameNumber head = id.number →
        stream.pending = head ++ frame.payload ++ rest →
          (t.step net' (.request index' getter)).outcome = .ok (.answer answer)) ∧
    (∀ a, setter.setsAddress? = some a → frame.payload = Bytes.ofNat slotSize
      (((a.a.toNat * 256 + a.b.toNat) * 256 + a.c.toNat) * 256 + a.d.toNat)) ∧
    ∀ (setter' getter' : Request) (answer' : Answer) (s' : Session τ) (net' : Network)
      (index' : Nat) (x' : Sensor) (frame' : Bytes), setter'.ReadsBack getter' answer' →
      s'.Sends net' index' x' setter' frame' → setter'.message.id = setter.message.id →
      frame'.payload = frame.payload →
        ((∀ a, setter ≠ .setMacAddress a) → setter' = setter) ∧
        ∀ a a', setter = .setMacAddress a → setter' = .setMacAddress a' →
          a'.o0 = a.o0 ∧ a'.o1 = a.o1 ∧ a'.o2 = a.o2 ∧ a'.o3 = a.o3 ∧ a'.o4 = a.o4 ∧
            a'.o5 = a.o5 := by
  obtain ⟨_, _, -, -, rfl⟩ := sends_iff.mp hsent
  have hroom := x.scratch.room setter.message
  refine ⟨?_, ?_, ?_⟩
  · obtain ⟨awaited, hawaited, hanswer⟩ := h.answer_eq
    refine ⟨awaited.reply, Request.awaits_of_read hawaited
      (hanswer _ (setter.message.read_payload hroom [])), ?_⟩
    intro t net' index' y b stream head rest count hfacing htaken hhead hnumber hpending
    have hfits : headerSize + (setter.message.frameIn x.scratch.content).payload.length ≤
        packetCapacity := by
      rw [setter.message.length_payload hroom]
      exact Message.frameLength_le_packetCapacity _
    exact outcome_of_payload hfacing hawaited hhead hnumber hpending hfits
      (fun rest => hanswer _ (setter.message.read_payload hroom rest)) htaken
  · intro a ha
    rw [Request.payload_of_setsAddress? ha hroom, a.toNat_toWord]
  · intro setter' getter' answer' s' net' index' x' frame' h' hsent' hid hpayload
    obtain ⟨_, _, -, -, rfl⟩ := sends_iff.mp hsent'
    have hmessage := Message.eq_of_payload (x'.scratch.room _) hroom hid hpayload
    have hsame : setter'.asSent = setter.asSent := by
      have hsetting := h'.setting?_message
      rw [hmessage, h.setting?_message] at hsetting
      exact (Option.some.inj hsetting).symm
    refine ⟨Request.eq_of_asSent_eq hsame, ?_⟩
    rintro a a' rfl rfl
    simpa [Request.asSent, MacAddress.cleared] using hsame

/-- A hardware address that one sensor sets comes back to another, behind a header that is wrong
but for its number and with another byte following. -/
theorem payload_reads_back_usedSession :
    let setter : Request := .setMacAddress ⟨1, 2, 3, 4, 5, 6, 7, 8⟩
    let head : Bytes := [0xff, 0xff, 0xff, 1]
    setter.ReadsBack .getMacAddress (.mac ⟨1, 2, 3, 4, 5, 6, 0, 0⟩) ∧
      ∃ x frame, usedSession.Sends sampleNetwork 0 x setter frame ∧
        ∃ y : Sensor, pairedSession.sensor? 1 = some y ∧
          pairedSession.ask sampleNetwork 1 y .getMacAddress (head ++ frame.payload ++ [9]) =
            .ok (.answer (.mac ⟨1, 2, 3, 4, 5, 6, 0, 0⟩)) := by
  intro setter head
  have hreads : setter.ReadsBack .getMacAddress (.mac ⟨1, 2, 3, 4, 5, 6, 0, 0⟩) := .macAddress _
  have hused : ∃ x b stream, usedSession.Facing 0 x b stream := ⟨_, _, _, rfl, rfl, rfl, rfl⟩
  obtain ⟨x, b, stream, hfacing⟩ := hused
  have hsent : usedSession.Sends sampleNetwork 0 x setter _ :=
    sends_iff.mpr ⟨b, stream, hfacing, sampleNetwork_carries _, rfl⟩
  have hpaired : ∃ y c, pairedSession.Facing 1 y c {} := ⟨_, _, rfl, rfl, rfl, rfl⟩
  obtain ⟨y, c, hpaired⟩ := hpaired
  obtain ⟨⟨id, hawaits, hback⟩, -⟩ := payload_reads_back hreads hsent
  obtain rfl : id = .replyGetMacAddress := by
    obtain ⟨values, answer, hanswer⟩ := hawaits
    cases hanswer
    rfl
  refine ⟨hreads, x, _, hsent, y, hpaired.holds, ?_⟩
  rw [ask, boardWrites_of_connected hpaired.connected rfl]
  exact hback _ _ _ y _ _ head [9] _ ⟨hpaired.holds, hpaired.connected.setBoard _⟩ rfl rfl
    (by decide) rfl

end Session
end WrenchLink

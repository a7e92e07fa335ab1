/-
Replies of another kind than the one that is awaited.

A reply is read as the awaited kind before its number is compared.  So a complete frame of
another kind is reported as a mismatch only if it could have been the awaited one: if it is
long enough and has an enumerator wherever one is due (`Message.Readable`).  Any other is
reported as the first slot that cannot be read, and the number that it carries is not:
`Session.ask_of_other_kind`.
-/
import WrenchLink.Proofs.Message.RoundTrip
import WrenchLink.Proofs.Sensor.Transaction

namespace WrenchLink
namespace Message

/-- Bytes that can be read as a kind of message, whatever number they carry. -/
structure Readable (frame : Bytes) (id : MessageId) : Prop where
  length : frameLength id ≤ frame.length
  enumerator : ∀ j f e, id.fields[j]? = some f → f.kind = .enumeration e →
    ∃ v, (e.code v : Int) = slotInteger frame j

theorem readable_iff {frame : Bytes} (id : MessageId) (h : headerSize ≤ frame.length) :
    Readable frame id ↔ ∀ fault, ¬ StopsAt frame 0 id.fields fault := by
  have hlength : frameLength id = headerSize + slotSize * id.fields.length := rfl
  rw [forall_not_stopsAt_iff]
  constructor
  · intro hread k f hf
    obtain ⟨hk, -⟩ := List.getElem?_eq_some_iff.mp hf
    have hslots := Nat.mul_le_mul_left slotSize (Nat.succ_le_of_lt hk)
    have hframe := hread.length
    rw [Nat.zero_add, slotFault?_eq_none_iff]
    rw [Nat.mul_succ] at hslots
    exact ⟨by omega, fun e he => hread.enumerator k f e hf he⟩
  · intro hfree
    constructor
    · cases hcount : id.fields.length with
      | zero =>
        rw [hlength, hcount]
        exact h
      | succ count =>
        have hlast : count < id.fields.length := by omega
        have hslot := hfree count _ (List.getElem?_eq_getElem hlast)
        rw [Nat.zero_add, slotFault?_eq_none_iff] at hslot
        rw [hlength, hcount, Nat.mul_succ, ← Nat.add_assoc]
        exact hslot.1
    · intro j f e hf he
      have hslot := hfree j f hf
      rw [Nat.zero_add, slotFault?_eq_none_iff] at hslot
      exact hslot.2 e he

theorem StopsAt.ne_protocolMismatch {frame : Bytes} {j : Nat} {fields : List Field}
    {fault : Fault} (h : StopsAt frame j fields fault) (expected actual : Nat) :
    fault ≠ .protocolMismatch expected actual := by
  induction h with
  | later _ _ ih => exact ih
  | here hfault =>
    rintro rfl
    unfold slotFault? at hfault
    split at hfault
    · cases hfault
    · split at hfault
      · split at hfault <;> cases hfault
      · cases hfault

theorem frameNumber_frameIn (m : Message) {buffer : Bytes}
    (h : frameLength m.id ≤ buffer.length) : frameNumber (m.frameIn buffer) = m.id.number := by
  have hread := m.decode_frameIn h []
  rw [List.append_nil] at hread
  exact (decode_eq_ok_iff.mp hread).2.1

end Message

namespace Sensor

theorem readReply_of_stopsAt {awaited : Awaited} {bytes : Bytes} {fault : Fault}
    (h : headerSize ≤ bytes.length)
    (hstop : Message.StopsAt bytes 0 awaited.reply.fields fault) :
    readReply awaited bytes = .error fault := by
  have hread := (Message.read_eq_error_iff awaited.reply.advance_of_mem_fields bytes 0 fault).mpr
    hstop
  rw [Nat.mul_zero, Nat.add_zero] at hread
  rw [readReply_eq awaited h, hread]

theorem readReply_of_readable {awaited : Awaited} {bytes : Bytes} (h : headerSize ≤ bytes.length)
    (hread : Message.Readable bytes awaited.reply)
    (hid : Message.frameNumber bytes ≠ awaited.reply.number) :
    readReply awaited bytes =
      .error (.protocolMismatch awaited.reply.number (Message.frameNumber bytes)) := by
  have hwalk := Message.read_eq_error_iff awaited.reply.advance_of_mem_fields bytes 0
  rw [Nat.mul_zero, Nat.add_zero] at hwalk
  rw [readReply_eq awaited h]
  cases hvalues : Values.read awaited.reply.fields (bytes.drop headerSize) with
  | error fault =>
    exact absurd ((hwalk fault).mp hvalues) ((Message.readable_iff _ h).mp hread fault)
  | ok values => exact if_neg hid

end Sensor

namespace Session

variable {τ : Type}

/-- What a sensor's request gives when its board answers it with the bytes.  A request reads
only after it has sent, so the answer may as well be there before. -/
def ask (s : Session τ) (net : Network) (index : Nat) (sensor : Sensor) (request : Request)
    (answer : Bytes) : Except Fault Reply :=
  ((s.step net (.boardWrites sensor.board answer)).session.step net
    (.request index request)).outcome

theorem boardWrites_of_connected {s : Session τ} {id : Nat} {b : Board (Callback τ)}
    {stream : Stream} (h : s.manager.Connected id b stream) (hopen : stream.ended = false)
    (net : Network) (bytes : Bytes) :
    (s.step net (.boardWrites id bytes)).session =
      { s with
        manager := s.manager.setBoard id
          (b.setStream { stream with pending := stream.pending ++ bytes }) } := by
  have hdeliver : b.tcp.deliver bytes =
      { b.tcp with stream := some { stream with pending := stream.pending ++ bytes } } := by
    rw [TcpChannel.deliver, h.stream, Option.map_some, hopen]
    rfl
  rw [step, withStream, h.board]
  show (s.settle (s.manager.setBoard id { b with tcp := b.tcp.deliver bytes })).session = _
  rw [hdeliver]
  rfl

theorem outcome_request {s : Session τ} {index : Nat} {sensor : Sensor}
    (h : s.sensor? index = some sensor) (net : Network) (request : Request) :
    (s.step net (.request index request)).outcome =
      (sensor.perform net s.manager request).outcome.map (Option.elim · .waiting .answer) := by
  simp only [step, h]

/-- On a quiet stream, one receive takes of an answer what fits into a packet. -/
theorem ask_of_nothing_pending {s : Session τ} {index : Nat} {sensor : Sensor}
    {b : Board (Callback τ)} {stream : Stream} (hsensor : s.sensor? index = some sensor)
    (hconnected : s.manager.Connected sensor.board b stream) (hquiet : stream.pending = [])
    (hopen : stream.ended = false) {request : Request} {awaited : Awaited}
    (hawaited : request.awaited = some awaited) {bytes : Bytes} (hne : bytes ≠ [])
    {net : Network} {count : Nat} (hsent : net.takes .tcp b.tcp.peer
      (request.message.frameIn sensor.scratch.content) = .ok count) :
    s.ask net index sensor request bytes =
      (Sensor.readReply awaited (bytes.take packetCapacity)).map .answer := by
  let waiting : Stream := { stream with pending := bytes }
  let after : Session τ :=
    { s with manager := s.manager.setBoard sensor.board (b.setStream waiting) }
  have hafter : after.sensor? index = some sensor := hsensor
  have hboard := boardWrites_of_connected hconnected hopen net bytes
  rw [hquiet, List.nil_append] at hboard
  have htransact := Sensor.transact_of_connected (hconnected.setBoard waiting) hne hsent awaited
  have houtcome : (sensor.transact net after.manager request.message awaited).outcome =
      (Sensor.readReply awaited (bytes.take packetCapacity)).map some :=
    congrArg Sensor.Exchange.outcome htransact
  rw [ask, hboard, outcome_request hafter]
  simp only [Sensor.perform, hawaited, houtcome]
  cases Sensor.readReply awaited (bytes.take packetCapacity) <;> rfl

theorem ask_eq {s : Session τ} {index : Nat} {sensor : Sensor} {b : Board (Callback τ)}
    {stream : Stream} (hsensor : s.sensor? index = some sensor)
    (hconnected : s.manager.Connected sensor.board b stream) (hquiet : stream.pending = [])
    (hopen : stream.ended = false) {request : Request} {awaited : Awaited}
    (hawaited : request.awaited = some awaited) {bytes : Bytes} (hne : bytes ≠ [])
    (hcapacity : bytes.length ≤ packetCapacity) {net : Network} {count : Nat}
    (hsent : net.takes .tcp b.tcp.peer
      (request.message.frameIn sensor.scratch.content) = .ok count) :
    s.ask net index sensor request bytes = (Sensor.readReply awaited bytes).map .answer := by
  rw [ask_of_nothing_pending hsensor hconnected hquiet hopen hawaited hne hsent,
    List.take_of_length_le hcapacity]

/-- Once the request is sent, a complete frame of another kind than the awaited one is reported
as a mismatch if and only if it is readable as the awaited kind.  Otherwise the request fails for
the slot at which reading the awaited kind stops. -/
theorem ask_of_other_kind {s : Session τ} {index : Nat} {sensor : Sensor}
    {b : Board (Callback τ)} {stream : Stream} (hsensor : s.sensor? index = some sensor)
    (hconnected : s.manager.Connected sensor.board b stream) (hquiet : stream.pending = [])
    (hopen : stream.ended = false) {request : Request} {awaited : Awaited}
    (hawaited : request.awaited = some awaited) {reply : Message} {buffer : Bytes}
    (hbuffer : Message.frameLength reply.id ≤ buffer.length) (hother : reply.id ≠ awaited.reply)
    {net : Network} {count : Nat} (hsent : net.takes .tcp b.tcp.peer
      (request.message.frameIn sensor.scratch.content) = .ok count) :
    (s.ask net index sensor request (reply.frameIn buffer) =
        .error (.protocolMismatch awaited.reply.number reply.id.number) ↔
      Message.Readable (reply.frameIn buffer) awaited.reply) ∧
    ∀ fault, Message.StopsAt (reply.frameIn buffer) 0 awaited.reply.fields fault →
      s.ask net index sensor request (reply.frameIn buffer) = .error fault := by
  have hlength := reply.length_frameIn hbuffer
  have hbound := Message.frameLength_le reply.id
  have hspan := Message.frameLength_eq reply.id
  have hcapacity : packetCapacity = 256 := rfl
  have hpositive : 0 < headerSize := by decide
  have hheader : headerSize ≤ (reply.frameIn buffer).length := by omega
  have hnumber := reply.frameNumber_frameIn hbuffer
  have hid : Message.frameNumber (reply.frameIn buffer) ≠ awaited.reply.number := by
    rw [hnumber]
    exact fun hsame => hother (MessageId.number_injective hsame)
  have hask := ask_eq hsensor hconnected hquiet hopen hawaited
    (List.ne_nil_of_length_pos (Nat.lt_of_lt_of_le hpositive hheader)) (by omega) hsent
  have hstops : ∀ fault, Message.StopsAt (reply.frameIn buffer) 0 awaited.reply.fields fault →
      s.ask net index sensor request (reply.frameIn buffer) = .error fault := by
    intro fault hstop
    rw [hask, Sensor.readReply_of_stopsAt hheader hstop]
    rfl
  refine ⟨⟨?_, ?_⟩, hstops⟩
  · intro hmismatch
    rw [Message.readable_iff _ hheader]
    intro fault hstop
    rw [hstops fault hstop] at hmismatch
    exact hstop.ne_protocolMismatch _ _ (Except.error.inj hmismatch)
  · intro hread
    rw [hask, Sensor.readReply_of_readable hheader hread hid, hnumber]
    rfl

/-- A network in which everything can be reached and everything is sent. -/
def sampleNetwork : Network := ⟨fun _ => true, fun _ => true, fun _ _ bytes => .ok bytes.length⟩

def sampleSensor : Sensor := { board := 0, token := 0 }

/-- One board, a sensor on it, and the board connected. -/
def sampleSession : Session Unit :=
  [Operation.addBoard ⟨⟨192, 168, 1, 1⟩, true, defaultPort, true, defaultPort⟩, .attachSensor 0,
    .connectAll].foldl (fun s operation => (s.step sampleNetwork operation).session)
    (start (Manager.new ⟨⟨192, 168, 1, 100⟩, defaultPort⟩))

/-- A fault report can be read as a release, so its number is what is wrong with it. -/
theorem ask_of_other_kind_replyFault :
    sampleSession.sensor? 0 = some sampleSensor ∧
      (∃ b, sampleSession.manager.Connected 0 b {}) ∧
      sampleSession.ask sampleNetwork 0 sampleSensor .getBoardInfo
          (Message.frameIn ⟨.replyFault, ((0xdead : UInt32), ())⟩ (List.replicate 8 0)) =
        .error (.protocolMismatch 2 6) := by
  have hsensor : sampleSession.sensor? 0 = some sampleSensor := rfl
  have hconnected : ∃ b, sampleSession.manager.Connected 0 b {} := ⟨_, rfl, rfl, rfl⟩
  have hawaited : Request.awaited .getBoardInfo = some _ := rfl
  refine ⟨hsensor, hconnected, ?_⟩
  obtain ⟨b, hb⟩ := hconnected
  refine (ask_of_other_kind hsensor hb rfl rfl hawaited (by decide) (by decide)
    rfl).1.mpr ⟨by decide, ?_⟩
  intro j f e hf he
  cases j with
  | zero =>
    cases hf
    cases he
  | succ j => cases hf

/-- A frame without fields and a frame with a number where an enumerator is due are complete
and of another kind than the awaited one, and neither is reported as a mismatch. -/
theorem ask_of_other_kind_unreadable :
    sampleSession.sensor? 0 = some sampleSensor ∧
      (∃ b, sampleSession.manager.Connected 0 b {}) ∧
      sampleSession.ask sampleNetwork 0 sampleSensor .getBoardInfo
          (Message.frameIn ⟨.getBoardInfo, ()⟩ (List.replicate 4 0)) =
        .error (.bufferTooSmall 4 0) ∧
      sampleSession.ask sampleNetwork 0 sampleSensor .getSampleStreamPolicy
          (Message.frameIn ⟨.replyFault, ((0xdead : UInt32), ())⟩ (List.replicate 8 0)) =
        .error (.invalidEnumerator .sampleStreamPolicy 57005) :=
  ⟨rfl, ⟨_, rfl, rfl, rfl⟩, rfl, rfl⟩

end Session
end WrenchLink

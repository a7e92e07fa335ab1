/-
Why a transfer over a board fails, and what it leaves behind then.

`Board.obstacles` lists what may stand in the way of a transfer, in the order in which it is
looked at; last comes what the system says.  A transfer fails over the first obstacle that is
there and over nothing else: `Session.outcome_transfer_eq_error_iff`.

An operation passes on what it works on whether it fails or not.  That a failure passes it on
unchanged is shown from the channel up: `TcpChannel.receive_of_no_bytes` for a read, which writes
straight into its caller's storage, and `Manager.withBoard_of_error` for whatever goes through
the table of boards.
-/
import WrenchLink.Proofs.Session.BoardTable

namespace WrenchLink

variable {η τ : Type}

inductive Transfer where
  | sendTcp (packet : Packet)
  | receiveTcp
  | sendUdp (packet : Packet)

def Fault.when (fault : Fault) (present : Bool) : Option Fault :=
  if present then some fault else none

/-- Why the system takes none of the bytes that are sent to an endpoint, if it does not. -/
def Network.refusal? (net : Network) (service : Service) (peer : Endpoint) (bytes : Bytes) :
    Option Fault :=
  match net.takes service peer bytes with
  | .error cause => some (.system cause)
  | .ok _ => none

theorem Network.send_of_error {net : Network} {service : Service} {peer : Endpoint}
    {bytes : Bytes} {fault : Fault} (h : (net.send service peer bytes).1 = .error fault) :
    net.send service peer bytes = (.error fault, []) := by
  rw [send] at h ⊢
  cases htakes : net.takes service peer bytes with
  | error cause =>
    rw [htakes] at h
    cases h
    rfl
  | ok count =>
    rw [htakes] at h
    cases h

namespace Board

variable {b : Board η} {net : Network} {fault : Fault}

/-- What may keep a transfer from being made over the board of that number, in the order in which
it counts. -/
def obstacles (net : Network) (b : Board η) (number : Nat) : Transfer → List (Option Fault)
  | .sendTcp packet =>
    [(Fault.serviceUnavailable number .tcp).when !b.tcpService,
      (Fault.transport (.notConnected b.tcp.peer)).when !b.tcp.isConnected,
      net.refusal? .tcp b.tcp.peer packet.bytes]
  | .receiveTcp =>
    [(Fault.serviceUnavailable number .tcp).when !b.tcpService,
      (Fault.transport (.notConnected b.tcp.peer)).when !b.tcp.isConnected,
      (Fault.transport (.closedByPeer b.tcp.peer)).when
        (b.tcp.stream.any fun s => s.pending.isEmpty && s.ended),
      (Fault.system .readTimedOut).when
        ((b.tcp.stream.any fun s => s.pending.isEmpty && !s.ended) && b.tcp.readTimeout.isSome)]
  | .sendUdp packet =>
    [(Fault.serviceUnavailable number .udp).when !b.udpService,
      Fault.notBound.when !b.udp.hasSocket,
      net.refusal? .udp b.udp.destination packet.bytes]

def firstObstacle? (net : Network) (b : Board η) (number : Nat) (t : Transfer) : Option Fault :=
  (b.obstacles net number t).findSome? fun obstacle => obstacle

/-- The read of a receive goes on without end: nothing has come, the board may still send, and
there is no bound on the wait. -/
def Waits (b : Board η) : Prop :=
  b.tcpService = true ∧ b.tcp.readTimeout = none ∧
    ∃ stream, b.tcp.stream = some stream ∧ stream.pending = [] ∧ stream.ended = false

theorem sendTcp_fails_iff {packet : Packet} :
    (b.sendTcp net packet).1 = .error fault ↔
      b.firstObstacle? net b.id (.sendTcp packet) = some fault := by
  cases hservice : b.tcpService <;> cases hstream : b.tcp.stream <;>
    cases htakes : net.takes .tcp b.tcp.peer packet.bytes <;>
    simp [sendTcp, require, TcpChannel.send, Network.send, Network.refusal?, firstObstacle?,
      obstacles, Fault.when, TcpChannel.isConnected, hservice, hstream, htakes]

theorem receiveTcp_fails_iff {packet : Packet} :
    (b.receiveTcp packet).1.received = .error fault ↔
      b.firstObstacle? net b.id .receiveTcp = some fault := by
  cases hservice : b.tcpService with
  | false => simp [receiveTcp, require, firstObstacle?, obstacles, Fault.when, hservice]
  | true =>
    rcases hstream : b.tcp.stream with _ | ⟨_ | ⟨byte, rest⟩, _ | _, sent⟩ <;>
      cases hbound : b.tcp.readTimeout <;>
      simp [receiveTcp, require, TcpChannel.receive, firstObstacle?, obstacles, Fault.when,
        TcpChannel.isConnected, packetCapacity, hservice, hstream, hbound]

theorem receiveTcp_waits_iff {packet : Packet} :
    (b.receiveTcp packet).1.received = .ok none ↔ b.Waits := by
  cases hservice : b.tcpService with
  | false => simp [receiveTcp, require, Waits, hservice]
  | true =>
    rcases hstream : b.tcp.stream with _ | ⟨_ | ⟨byte, rest⟩, _ | _, sent⟩ <;>
      cases hbound : b.tcp.readTimeout <;>
      simp [receiveTcp, require, TcpChannel.receive, Waits, packetCapacity, hservice, hstream,
        hbound]

theorem sendUdp_fails_iff {packet : Packet} :
    (b.sendUdp net packet).1 = .error fault ↔
      b.firstObstacle? net b.id (.sendUdp packet) = some fault := by
  cases hservice : b.udpService <;> cases hsocket : b.udp.hasSocket <;>
    cases htakes : net.takes .udp b.udp.destination packet.bytes <;>
    simp [sendUdp, require, UdpChannel.send, Network.send, Network.refusal?, firstObstacle?,
      obstacles, Fault.when, hservice, hsocket, htakes]

end Board

/-! ## What a failure leaves behind -/

namespace TcpChannel

variable {c : TcpChannel} {net : Network} {bytes : Bytes} {packet : Packet} {fault : Fault}

theorem send_of_error (h : (c.send net bytes).1 = .error fault) : (c.send net bytes).2 = c := by
  rw [send] at h ⊢
  cases hstream : c.stream with
  | none => rfl
  | some s =>
    rw [hstream] at h
    have hsend := Network.send_of_error h
    show { c with stream := some { s with sent := s.sent ++ (net.send .tcp c.peer bytes).2 } } = c
    rw [hsend, List.append_nil, ← hstream]

/-- A read that gives no bytes, because it fails or still waits, has written none into the storage
and taken none from the stream. -/
theorem receive_of_no_bytes (h : ∀ count, (c.receive packet).1 ≠ .ok (some count)) :
    (c.receive packet).2 = (packet, c) := by
  rw [receive] at h ⊢
  cases hstream : c.stream with
  | none => rfl
  | some s =>
    rw [hstream] at h
    by_cases htaken : s.pending.take packetCapacity = []
    · have hpending : s.pending = [] := by
        simpa [List.take_eq_nil_iff, packetCapacity] using htaken
      show (packet.fill (s.pending.take packetCapacity),
        { c with stream := some { s with pending := s.pending.drop packetCapacity } }) = (packet, c)
      rw [htaken, Packet.fill_nil, hpending, List.drop_nil, ← hpending, ← hstream]
    · exact absurd (if_pos htaken) (h _)

end TcpChannel

theorem UdpChannel.send_of_error {c : UdpChannel} {net : Network} {bytes : Bytes} {fault : Fault}
    (h : (c.send net bytes).1 = .error fault) : (c.send net bytes).2 = c := by
  rw [send] at h ⊢
  split
  · rfl
  · rename_i hsocket
    rw [if_neg hsocket] at h
    split at h
    · rfl
    · cases h

namespace Board

variable {b : Board η} {net : Network} {packet : Packet} {fault : Fault}

theorem sendTcp_of_error (h : (b.sendTcp net packet).1 = .error fault) :
    (b.sendTcp net packet).2 = b := by
  rw [sendTcp] at h ⊢
  cases hservice : b.require .tcp with
  | error refused => rfl
  | ok _ =>
    rw [hservice] at h
    simp only [TcpChannel.send_of_error h]

theorem receiveTcp_of_no_bytes (h : ∀ count, (b.receiveTcp packet).1.received ≠ .ok (some count)) :
    (b.receiveTcp packet).1.packet = packet ∧ (b.receiveTcp packet).2 = b := by
  rw [receiveTcp] at h ⊢
  cases hservice : b.require .tcp with
  | error refused => exact ⟨rfl, rfl⟩
  | ok _ =>
    rw [hservice] at h
    have hread := TcpChannel.receive_of_no_bytes h
    simp only [hread, and_true]
    split
    · rename_i count hcount
      exact absurd hcount (h count)
    · rfl
    · rfl

theorem sendUdp_of_error (h : (b.sendUdp net packet).1 = .error fault) :
    (b.sendUdp net packet).2 = b := by
  rw [sendUdp] at h ⊢
  cases hservice : b.require .udp with
  | error refused => rfl
  | ok _ =>
    rw [hservice] at h
    simp only [UdpChannel.send_of_error h]

end Board

namespace Manager

variable {m : Manager η} {id : Nat} {fault : Fault}

/-- If an operation that does not succeed leaves its board as it was, it leaves the manager as it
was. -/
theorem withBoard_of_error {α : Type} {refusal : Fault → α} {operation : Board η → α × Board η}
    (failed : α → Prop) (hop : ∀ b, failed (operation b).1 → (operation b).2 = b)
    (h : failed (m.withBoard id refusal operation).1) :
    (m.withBoard id refusal operation).2 = m := by
  cases hb : m.boards[id]? with
  | none => rw [withBoard_of_none hb]
  | some b =>
    rw [withBoard_of_board hb] at h ⊢
    simp only [hop b h, setBoard_self hb]

theorem install_of_error {handler : η} (h : (m.install id handler).1 = .error fault) :
    (m.install id handler).2 = m :=
  withBoard_of_error (· = .error fault) (fun _ hop => by cases hop) h

theorem remove_of_error {token : Nat} (h : (m.remove id token).1 = .error fault) :
    (m.remove id token).2 = m :=
  withBoard_of_error (· = .error fault) (fun _ hop => by cases hop) h

theorem sendTcp_of_error {net : Network} {packet : Packet}
    (h : (m.sendTcp net id packet).1 = .error fault) : (m.sendTcp net id packet).2 = m :=
  withBoard_of_error (· = .error fault) (fun _ => Board.sendTcp_of_error) h

theorem sendUdp_of_error {net : Network} {packet : Packet}
    (h : (m.sendUdp net id packet).1 = .error fault) : (m.sendUdp net id packet).2 = m :=
  withBoard_of_error (· = .error fault) (fun _ => Board.sendUdp_of_error) h

theorem receiveTcp_of_no_bytes {packet : Packet}
    (h : ∀ count, (m.receiveTcp id packet).1.received ≠ .ok (some count)) :
    (m.receiveTcp id packet).1.packet = packet ∧ (m.receiveTcp id packet).2 = m := by
  cases hb : m.boards[id]? with
  | none =>
    rw [receiveTcp, withBoard_of_none hb]
    exact ⟨rfl, rfl⟩
  | some b =>
    rw [receiveTcp, withBoard_of_board hb] at h ⊢
    obtain ⟨hpacket, hboard⟩ := Board.receiveTcp_of_no_bytes h
    exact ⟨hpacket, by simp only [hboard, setBoard_self hb]⟩

theorem bind_of_error {net : Network} (h : (m.bind net).1 = .error fault) :
    (m.bind net).2 = m := by
  rw [bind] at h ⊢
  split
  · rfl
  · split
    · rfl
    · split
      · rfl
      · rename_i hbound hbindable hpositive
        rw [if_neg hbound, if_neg hbindable, if_neg hpositive] at h
        cases h

theorem startReceiving_of_error (h : m.startReceiving.1 = .error fault) :
    m.startReceiving.2 = m := by
  rw [startReceiving] at h ⊢
  split
  · rename_i hbound
    rw [if_pos hbound] at h
    cases h
  · rfl

/-- The first obstacle to a transfer over the board of that number, which may not be there at
all. -/
def obstacle? (net : Network) (m : Manager η) (id : Nat) (t : Transfer) : Option Fault :=
  (m.boards[id]?).elim (some (.invalidBoardId id)) (·.firstObstacle? net id t)

theorem withBoard_fails_iff_obstacle {α β : Type} (hm : m.Tabled) {net : Network} {t : Transfer}
    {refusal : Fault → α} {operation : Board η → α × Board η} (outcome : α → Except Fault β)
    (hrefusal : ∀ cause, outcome (refusal cause) = .error cause)
    (hop : ∀ b, outcome (operation b).1 = .error fault ↔
      b.firstObstacle? net b.id t = some fault) :
    outcome (m.withBoard id refusal operation).1 = .error fault ↔
      m.obstacle? net id t = some fault := by
  rw [obstacle?]
  cases hb : m.boards[id]? with
  | none =>
    rw [withBoard_of_none hb, hrefusal, Option.elim_none, Option.some.injEq, Except.error.injEq]
  | some b => rw [withBoard_of_board hb, hop, hm.id_eq hb, Option.elim_some]

end Manager

def Operation.transfer? : Operation τ → Option (Nat × Transfer)
  | .sendTcp board packet => some (board, .sendTcp packet)
  | .receiveTcp board _ => some (board, .receiveTcp)
  | .sendUdp board packet => some (board, .sendUdp packet)
  | _ => none

/-- A transfer fails exactly if there is an obstacle, and then over the first. -/
theorem Session.outcome_transfer_eq_error_iff {s : Session τ} (hs : s.manager.Tabled)
    (net : Network) {operation : Operation τ} {id : Nat} {t : Transfer}
    (h : operation.transfer? = some (id, t)) {fault : Fault} :
    (s.step net operation).outcome = .error fault ↔
      s.manager.obstacle? net id t = some fault := by
  cases operation with
  | sendTcp board packet =>
    cases h
    rw [step, outcome_lift_eq_error_iff]
    exact Manager.withBoard_fails_iff_obstacle hs (fun outcome => outcome) (fun _ => rfl)
      fun _ => Board.sendTcp_fails_iff
  | receiveTcp board packet =>
    cases h
    rw [step, outcome_lift_eq_error_iff]
    exact Manager.withBoard_fails_iff_obstacle hs Receipt.received (fun _ => rfl)
      fun _ => Board.receiveTcp_fails_iff
  | sendUdp board packet =>
    cases h
    rw [step, outcome_lift_eq_error_iff]
    exact Manager.withBoard_fails_iff_obstacle hs (fun outcome => outcome) (fun _ => rfl)
      fun _ => Board.sendUdp_fails_iff
  | _ => cases h

end WrenchLink

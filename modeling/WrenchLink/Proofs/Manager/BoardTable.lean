/-
The table of boards.

A board's entry is its number and what it was added with.  No operation changes the entries
that are there (`SameTable`), but for `addBoard`, which puts one more behind them; and the
boards stay numbered from zero, with one clock for each of them (`Tabled`).

Clocks are found by a board's own number.  In a table that is kept like this no datagram misses
one: `lastSeen_refresh_eq_foldl`.
-/
import WrenchLink.Proofs.Manager.Follows

namespace WrenchLink

variable {η : Type}

namespace TcpChannel

@[simp] theorem peer_connect (net : Network) (c : TcpChannel) :
    (c.connect net).2.peer = c.peer := by
  rw [connect]
  split
  · rfl
  · split <;> rfl

@[simp] theorem peer_send (net : Network) (c : TcpChannel) (bytes : Bytes) :
    (c.send net bytes).2.peer = c.peer := by
  rw [send]
  cases c.stream <;> rfl

@[simp] theorem peer_receive (c : TcpChannel) (packet : Packet) :
    (c.receive packet).2.2.peer = c.peer := by
  rw [receive]
  cases c.stream <;> rfl

end TcpChannel

@[simp] theorem UdpChannel.destination_send (net : Network) (c : UdpChannel) (bytes : Bytes) :
    (c.send net bytes).2.destination = c.destination := by
  rw [send]
  split
  · rfl
  · split <;> rfl

namespace Board

/-- A board's number and what it was added with. -/
def entry (b : Board η) : Nat × BoardSpec :=
  (b.id, ⟨b.address, b.tcpService, b.tcp.peer.port, b.udpService, b.udp.destination.port⟩)

theorem entry_with_tcp {b : Board η} {tcp : TcpChannel} (h : tcp.peer = b.tcp.peer) :
    ({ b with tcp } : Board η).entry = b.entry := by
  simp only [entry, h]

theorem entry_sendTcp (net : Network) (b : Board η) (packet : Packet) :
    (b.sendTcp net packet).2.entry = b.entry := by
  rw [sendTcp]
  cases b.require .tcp with
  | error fault => rfl
  | ok _ => exact entry_with_tcp (b.tcp.peer_send net packet.bytes)

theorem entry_receiveTcp (b : Board η) (packet : Packet) :
    (b.receiveTcp packet).2.entry = b.entry := by
  rw [receiveTcp]
  cases b.require .tcp with
  | error fault => rfl
  | ok _ => exact entry_with_tcp (b.tcp.peer_receive packet)

theorem entry_sendUdp (net : Network) (b : Board η) (packet : Packet) :
    (b.sendUdp net packet).2.entry = b.entry := by
  rw [sendUdp]
  cases b.require .udp with
  | error fault => rfl
  | ok _ => simp only [entry, UdpChannel.destination_send]

theorem entry_connect (net : Network) (b : Board η) :
    (b.connect net).2.entry = b.entry := by
  have hpeer : (b.openStream net).2.peer = b.tcp.peer := by
    rw [openStream]
    split
    · exact b.tcp.peer_connect net
    · rfl
  have hdestination : (if b.udpService then b.udp.adoptSocket else b.udp).destination =
      b.udp.destination := by
    split <;> rfl
  rw [connect]
  rcases hopen : b.openStream net with ⟨_ | _, tcp⟩ <;> rw [hopen] at hpeer
  · exact entry_with_tcp hpeer
  · have hpeer : tcp.peer = b.tcp.peer := hpeer
    simp only [entry, hpeer, hdestination]

end Board

namespace Manager

variable {m m' m'' : Manager η}

def entries (m : Manager η) : List (Nat × BoardSpec) := m.boards.map Board.entry

/-! ## Operations that leave the table alone -/

structure SameTable (m m' : Manager η) : Prop where
  entries : m'.entries = m.entries
  clocks : m'.lastSeen.length = m.lastSeen.length

namespace SameTable

theorem refl (m : Manager η) : m.SameTable m := ⟨rfl, rfl⟩

theorem trans (h : m.SameTable m') (h' : m'.SameTable m'') : m.SameTable m'' :=
  ⟨h'.entries.trans h.entries, h'.clocks.trans h.clocks⟩

theorem length_boards (h : m.SameTable m') : m'.boards.length = m.boards.length := by
  have hlength := congrArg List.length h.entries
  simpa [Manager.entries] using hlength

end SameTable

theorem sameTable_setBoard {id : Nat} {b c : Board η} (hb : m.boards[id]? = some b)
    (hc : c.entry = b.entry) : m.SameTable (m.setBoard id c) :=
  ⟨map_boards_setBoard Board.entry hb hc, rfl⟩

theorem sameTable_withBoard {α : Type} {refusal : Fault → α}
    {operation : Board η → α × Board η} (hop : ∀ b, (operation b).2.entry = b.entry)
    (m : Manager η) (id : Nat) : m.SameTable (m.withBoard id refusal operation).2 :=
  withBoard_induction (.refl m) fun b hb => sameTable_setBoard hb (hop b)

theorem sameTable_install (m : Manager η) (id : Nat) (handler : η) :
    m.SameTable (m.install id handler).2 :=
  sameTable_withBoard (fun _ => rfl) m id

theorem sameTable_remove (m : Manager η) (id token : Nat) :
    m.SameTable (m.remove id token).2 :=
  sameTable_withBoard (fun _ => rfl) m id

theorem sameTable_sendTcp (net : Network) (m : Manager η) (id : Nat) (packet : Packet) :
    m.SameTable (m.sendTcp net id packet).2 :=
  sameTable_withBoard (·.entry_sendTcp net packet) m id

theorem sameTable_receiveTcp (m : Manager η) (id : Nat) (packet : Packet) :
    m.SameTable (m.receiveTcp id packet).2 :=
  sameTable_withBoard (·.entry_receiveTcp packet) m id

theorem sameTable_sendUdp (net : Network) (m : Manager η) (id : Nat) (packet : Packet) :
    m.SameTable (m.sendUdp net id packet).2 :=
  sameTable_withBoard (·.entry_sendUdp net packet) m id

theorem sameTable_bind (net : Network) (m : Manager η) : m.SameTable (m.bind net).2 := by
  rw [bind]
  split
  · exact .refl m
  · split
    · exact .refl m
    · split <;> exact ⟨rfl, rfl⟩

theorem entries_connectBoards (net : Network) (boards : List (Board η)) :
    (connectBoards net boards).2.map Board.entry = boards.map Board.entry := by
  induction boards with
  | nil => rfl
  | cons b rest ih =>
    have hb := b.entry_connect net
    rw [connectBoards]
    rcases hconnect : b.connect net with ⟨_ | _, c⟩ <;> rw [hconnect] at hb
    · show c.entry :: rest.map Board.entry = _
      rw [hb]
      rfl
    · show c.entry :: (connectBoards net rest).2.map Board.entry = _
      rw [ih, hb]
      rfl

theorem sameTable_connectAll (net : Network) (m : Manager η) :
    m.SameTable (m.connectAll net).2 := by
  have hbound := m.sameTable_bind net
  rw [connectAll]
  rcases hbind : m.bind net with ⟨_ | _, bound⟩ <;> rw [hbind] at hbound
  · exact hbound
  · exact ⟨(entries_connectBoards net bound.boards).trans hbound.entries, hbound.clocks⟩

theorem sameTable_withTimeout (m : Manager η) (timeout : Nat) :
    m.SameTable (m.withTimeout timeout) := by
  rw [withTimeout]
  split
  · exact .refl m
  · split
    · exact ⟨rfl, rfl⟩
    · split
      · exact .refl m
      · exact ⟨rfl, rfl⟩

theorem sameTable_startReceiving (m : Manager η) : m.SameTable m.startReceiving.2 := by
  rw [startReceiving]
  split <;> exact ⟨rfl, rfl⟩

theorem sameTable_receive (m : Manager η) (packet : Packet) :
    m.SameTable (m.receive packet).manager := by
  cases hqueued : m.queued with
  | nil =>
    rw [receive_of_queued_nil hqueued]
    split <;> exact ⟨rfl, rfl⟩
  | cons d rest =>
    rw [receive_of_queued hqueued]
    exact ⟨rfl, List.length_mapIdx⟩

theorem sameTable_stopReceiving (m : Manager η) : m.SameTable m.stopReceiving.2.2 := by
  rw [stopReceiving]
  split
  · exact (m.sameTable_receive Packet.empty).trans ⟨rfl, rfl⟩
  · exact .refl m

/-! ## Tables that are kept well -/

structure Tabled (m : Manager η) : Prop where
  few : m.boards.length ≤ maxBoards
  ids : m.boards.map Board.id = List.range m.boards.length
  clocks : m.lastSeen.length = m.boards.length

theorem tabled_new (interface : Endpoint) : (new interface : Manager η).Tabled :=
  ⟨Nat.zero_le _, rfl, rfl⟩

theorem map_id_eq (m : Manager η) : m.boards.map Board.id = m.entries.map Prod.fst := by
  rw [entries, List.map_map]
  rfl

namespace Tabled

theorem id_eq (hm : m.Tabled) {i : Nat} {b : Board η} (hb : m.boards[i]? = some b) : b.id = i := by
  obtain ⟨hlt, hget⟩ := List.getElem?_eq_some_iff.mp hb
  have hid := congrArg (·[i]?) hm.ids
  simpa [hlt, hget] using hid

theorem of_sameTable (hm : m.Tabled) (h : m.SameTable m') : m'.Tabled where
  few := by
    rw [h.length_boards]
    exact hm.few
  ids := by
    rw [map_id_eq, h.entries, ← map_id_eq, hm.ids, h.length_boards]
  clocks := by rw [h.clocks, hm.clocks, h.length_boards]

theorem addBoard (hm : m.Tabled) {spec : BoardSpec} {id : Nat}
    (h : m.addBoard spec = (.ok id, m')) :
    m'.Tabled ∧ m'.entries = m.entries ++ [(m.boards.length, spec)] := by
  rw [Manager.addBoard] at h
  split at h
  · cases h
  · rename_i hroom
    cases h
    refine ⟨⟨?_, ?_, ?_⟩, ?_⟩
    · simp only [List.length_append, List.length_singleton]
      omega
    · simp [hm.ids, List.range_succ, Board.new]
    · simp [hm.clocks]
    · simp [entries, Board.entry, Board.new]

end Tabled

theorem getElem?_foldl_set (boards : List (Board η)) (seen : List Nat) (now i : Nat) :
    (boards.foldl (fun seen b => seen.set b.id now) seen)[i]? =
      if boards.any (·.id = i) then seen[i]?.map fun _ => now else seen[i]? := by
  induction boards generalizing seen with
  | nil => rfl
  | cons b rest ih =>
    rw [List.foldl_cons, ih, List.any_cons]
    by_cases hb : b.id = i
    · subst hb
      cases hseen : seen[b.id]? with
      | none => simp [List.getElem?_set_self', hseen]
      | some before => simp [List.getElem?_set_self', hseen]
    · simp [hb, List.getElem?_set_ne hb]

/-- Restarting the clocks of the boards that a datagram goes to, one after the other and each by
the number that the board has of itself. -/
theorem lastSeen_refresh_eq_foldl (hm : m.Tabled) (sender : Address) :
    (m.refresh sender).lastSeen =
      (m.targets sender).foldl (fun seen b => seen.set b.id m.now) m.lastSeen := by
  apply List.ext_getElem?
  intro i
  have hany : (m.targets sender).any (·.id = i) = m.boards[i]?.any (·.address = sender) := by
    rw [Bool.eq_iff_iff, List.any_eq_true, Option.any_eq_true]
    constructor
    · rintro ⟨b, hb, hid⟩
      obtain ⟨hmem, hsender⟩ := List.mem_filter.mp hb
      obtain ⟨j, hj⟩ := List.mem_iff_getElem?.mp hmem
      have hij : j = i := (hm.id_eq hj).symm.trans (of_decide_eq_true hid)
      exact ⟨b, hij ▸ hj, hsender⟩
    · rintro ⟨b, hb, hsender⟩
      refine ⟨b, List.mem_filter.mpr ⟨List.mem_of_getElem? hb, hsender⟩, ?_⟩
      exact decide_eq_true (hm.id_eq hb)
  rw [getElem?_foldl_set, hany, refresh, List.getElem?_mapIdx]
  cases m.lastSeen[i]? with
  | none => simp
  | some before =>
    cases m.boards[i]?.any (·.address = sender) <;> simp

theorem lastSeen_of_mem_targets (hm : m.Tabled) {d : Datagram} {b : Board η}
    (hb : b ∈ m.targets d.sender) : (m.afterTaking d).lastSeen[b.id]? = some m.now := by
  obtain ⟨hmem, hsender⟩ := List.mem_filter.mp hb
  obtain ⟨i, hi⟩ := List.mem_iff_getElem?.mp hmem
  obtain ⟨hlt, -⟩ := List.getElem?_eq_some_iff.mp hi
  have hclock : i < m.lastSeen.length := by
    rw [hm.clocks]
    exact hlt
  have hsender : b.address = d.sender := of_decide_eq_true hsender
  rw [hm.id_eq hi]
  simp [afterTaking, refresh, hi, hsender, hclock]

/-- A clock at the present stays there while datagrams are taken, which takes no time. -/
theorem lastSeen_afterTaking_of_eq_now {i : Nat} (h : m.lastSeen[i]? = some m.now)
    (d : Datagram) : (m.afterTaking d).lastSeen[i]? = some m.now := by
  show (m.lastSeen.mapIdx _)[i]? = _
  rw [List.getElem?_mapIdx, h, Option.map_some]
  split <;> rfl

/-- Once all waiting datagrams are taken, the clock of each board that one of them went to stands
at the present. -/
theorem lastSeen_drain (hm : m.Tabled) {waiting : List Datagram} (hqueued : m.queued = waiting)
    (packet : Packet) {b : Board η}
    (hb : m.lastSeen[b.id]? = some m.now ∨ ∃ d ∈ waiting, b ∈ m.targets d.sender) :
    (m.drain packet waiting.length).2.lastSeen[b.id]? = some m.now := by
  induction waiting generalizing m packet with
  | nil =>
    obtain hnow | ⟨d, hd, -⟩ := hb
    · exact hnow
    · cases hd
  | cons e rest ih =>
    have htaken : (m.afterTaking e).Tabled := by
      refine hm.of_sameTable ⟨rfl, ?_⟩
      exact List.length_mapIdx
    have hrest : (m.afterTaking e).queued = rest := by
      rw [queued_afterTaking, hqueued, List.tail_cons]
    simp only [List.length_cons, drain, receive_of_queued hqueued]
    refine ih htaken hrest (packet.store e.bytes) ?_
    obtain hnow | ⟨d, hd, htarget⟩ := hb
    · exact Or.inl (lastSeen_afterTaking_of_eq_now hnow e)
    · rw [List.mem_cons] at hd
      obtain rfl | hd := hd
      · exact Or.inl (lastSeen_of_mem_targets hm htarget)
      · exact Or.inr ⟨d, hd, htarget⟩

/-! ## Looking for a board -/

end Manager

theorem Network.send_ne_invalidBoardId (net : Network) (service : Service) (peer : Endpoint)
    (bytes : Bytes) (i : Nat) : (net.send service peer bytes).1 ≠ .error (.invalidBoardId i) := by
  rw [send]
  cases net.takes service peer bytes <;> simp

namespace Board

variable {b : Board η}

theorem fault_of_require {service : Service} {fault : Fault}
    (h : b.require service = .error fault) : fault = .serviceUnavailable b.id service := by
  cases service with
  | tcp | udp =>
    simp only [require] at h
    split at h <;> cases h
    rfl

theorem sendTcp_ne_invalidBoardId (net : Network) (b : Board η) (packet : Packet) (i : Nat) :
    (b.sendTcp net packet).1 ≠ .error (.invalidBoardId i) := by
  intro h
  rw [sendTcp] at h
  cases hservice : b.require .tcp with
  | error fault =>
    rw [hservice] at h
    cases h
    cases fault_of_require hservice
  | ok _ =>
    rw [hservice] at h
    simp only [TcpChannel.send] at h
    split at h
    · cases h
    · exact net.send_ne_invalidBoardId _ _ _ i h

theorem receiveTcp_ne_invalidBoardId (b : Board η) (packet : Packet) (i : Nat) :
    (b.receiveTcp packet).1.received ≠ .error (.invalidBoardId i) := by
  intro h
  rw [receiveTcp] at h
  cases hservice : b.require .tcp with
  | error fault =>
    rw [hservice] at h
    cases h
    cases fault_of_require hservice
  | ok _ =>
    rw [hservice] at h
    simp only [TcpChannel.receive] at h
    repeat' split at h
    all_goals cases h

theorem sendUdp_ne_invalidBoardId (net : Network) (b : Board η) (packet : Packet) (i : Nat) :
    (b.sendUdp net packet).1 ≠ .error (.invalidBoardId i) := by
  intro h
  rw [sendUdp] at h
  cases hservice : b.require .udp with
  | error fault =>
    rw [hservice] at h
    cases h
    cases fault_of_require hservice
  | ok _ =>
    have hsend := net.send_ne_invalidBoardId .udp b.udp.destination packet.bytes i
    rw [hservice] at h
    simp only [UdpChannel.send] at h
    split at h
    · cases h
    · split at h
      · rename_i hsent
        rw [hsent] at hsend
        exact hsend h
      · cases h

end Board

namespace Manager

variable {m : Manager η}

/-- An operation on a board that finds no fault with board numbers fails over one only if the
board is missing. -/
theorem withBoard_eq_invalidBoardId_iff {α β : Type} {id i : Nat} {refusal : Fault → α}
    {operation : Board η → α × Board η} (outcome : α → Except Fault β)
    (hrefusal : ∀ fault, outcome (refusal fault) = .error fault)
    (hop : ∀ b, outcome (operation b).1 ≠ .error (.invalidBoardId i)) :
    outcome (m.withBoard id refusal operation).1 = .error (.invalidBoardId i) ↔
      m.boards.length ≤ id ∧ i = id := by
  rw [← List.getElem?_eq_none_iff]
  cases hb : m.boards[id]? with
  | none =>
    rw [withBoard_of_none hb, hrefusal]
    simp [eq_comm]
  | some b =>
    rw [withBoard_of_board hb]
    simp [hop b]

theorem handlerCount_eq_error_iff {id : Nat} {fault : Fault} :
    m.handlerCount id = .error fault ↔ m.boards.length ≤ id ∧ fault = .invalidBoardId id := by
  rw [← List.getElem?_eq_none_iff]
  cases hb : m.boards[id]? with
  | none => simp [handlerCount, board, hb, Bind.bind, Except.bind, eq_comm]
  | some b => simp [handlerCount, board, hb, Bind.bind, Except.bind, pure, Except.pure]

end Manager
end WrenchLink

/-
A manager is what its history makes it.

`Manager.Follows m h` says that the manager's boards, clocks, timeout handler and waiting
datagrams are those that the history tells of.  Each operation keeps it, with the occurrence
that the operation adds to the history: `Follows.addBoard` and the lemmas after it.  All other
operations leave the manager `Alike`.

What a receive calls then depends on the history alone: `Follows.dispatch_eq` for handlers of
datagrams, `Follows.mem_silentBoards_iff` for silent boards.
-/
import WrenchLink.Proofs.Board.Audience
import WrenchLink.Proofs.Manager.History

namespace WrenchLink

variable {η : Type}

theorem getElem?_concat_eq_ite {α : Type} (l : List α) (x : α) (i : Nat) :
    (l ++ [x])[i]? = if i = l.length then some x else l[i]? := by
  by_cases hi : i = l.length
  · rw [if_pos hi, hi, List.getElem?_concat_length]
  · rw [if_neg hi, List.getElem?_append]
    split
    · rfl
    · rw [List.getElem?_eq_none, List.getElem?_eq_none]
      · omega
      · rw [List.length_singleton]
        omega

namespace Manager

def queued (m : Manager η) : List Datagram :=
  match m.socket with
  | some s => s.queue
  | none => []

/-- The manager when it has taken the oldest datagram, which is `d`. -/
def afterTaking (m : Manager η) (d : Datagram) : Manager η :=
  let taken : Manager η :=
    { m with socket := m.socket.map fun s => { s with queue := s.queue.tail } }
  taken.refresh d.sender

/-- What one poll of the socket adds to the history. -/
def polled (m : Manager η) : History η :=
  match m.queued with
  | d :: _ => [.received d]
  | [] => if m.isBound then [.timePassed] else []

/-- The calls that are made when the oldest datagram, which is `d`, is taken. -/
def reactions (m : Manager η) (d : Datagram) : List (Event η) :=
  (m.afterTaking d).dispatch d.sender (d.bytes.take packetCapacity) ++ (m.afterTaking d).sweep

@[simp] theorem queued_afterTaking (m : Manager η) (d : Datagram) :
    (m.afterTaking d).queued = m.queued.tail := by
  cases hs : m.socket <;> simp [queued, afterTaking, refresh, hs]

theorem receive_of_queued {m : Manager η} {d : Datagram} {rest : List Datagram}
    (h : m.queued = d :: rest) (packet : Packet) :
    m.receive packet =
      ⟨.ok (min d.bytes.length packetCapacity), packet.store d.bytes, m.reactions d,
        m.afterTaking d⟩ := by
  cases hs : m.socket with
  | none =>
    rw [queued, hs] at h
    cases h
  | some s =>
    have hqueue : s.queue = d :: rest := by
      rw [queued, hs] at h
      exact h
    have hsize : (packet.store d.bytes).size = min d.bytes.length packetCapacity := by
      show (d.bytes.take packetCapacity).length = _
      rw [List.length_take, Nat.min_comm]
    have htaken : { m with socket := some { s with queue := rest } }.refresh d.sender =
        m.afterTaking d := by
      rw [afterTaking, hs, Option.map_some, hqueue, List.tail_cons]
    simp only [receive, hs, hqueue, htaken, hsize, Packet.bytes_store, reactions]

theorem receive_of_queued_nil {m : Manager η} (h : m.queued = []) (packet : Packet) :
    m.receive packet =
      if m.isBound then ⟨.error .recvTimeout, packet, m.notify noTrafficBoard, m.wait⟩
      else ⟨.error .notBound, packet, [], m⟩ := by
  cases hs : m.socket with
  | none => simp [receive, isBound, hs]
  | some s =>
    have hqueue : s.queue = [] := by
      rw [queued, hs] at h
      exact h
    simp [receive, isBound, hs, hqueue]

theorem receiveQueued_eq (m : Manager η) :
    m.receiveQueued = m.drain Packet.empty m.queued.length := by
  cases hs : m.socket <;> simp [receiveQueued, queued, hs, drain]

theorem pairwise_silentBoards (m : Manager η) : m.silentBoards.Pairwise (· < ·) :=
  List.pairwise_lt_range.filter _

structure Follows (m : Manager η) (h : History η) : Prop where
  boards : m.boards.map (fun b => (b.address, b.registry.installed)) = h.boards
  /-- Handlers are on boards that exist. -/
  unused : ∀ i, m.boards.length ≤ i → h.handlers i = []
  clocks : m.lastSeen.length = m.boards.length
  seen : ∀ i seen, m.lastSeen[i]? = some seen → seen ≤ m.now ∧ (seen < m.now ↔ h.Silent i)
  timeoutHandler : m.timeoutHandler = h.timeoutHandler?
  queue : h.arrivals = h.receptions ++ m.queued

theorem follows_new (interface : Endpoint) : (new interface : Manager η).Follows [] where
  boards := rfl
  unused := fun _ _ => rfl
  clocks := rfl
  seen := nofun
  timeoutHandler := rfl
  queue := rfl

/-! ## What the history tells -/

namespace Follows

variable {m : Manager η} {h : History η}

theorem getElem?_boards (hm : m.Follows h) (i : Nat) :
    m.boards[i]?.map (fun b => (b.address, b.registry.installed)) =
      h.addresses[i]?.map fun address => (address, h.handlers i) := by
  rw [← List.getElem?_map, hm.boards, History.boards, List.getElem?_mapIdx]

theorem getElem?_addresses (hm : m.Follows h) (i : Nat) :
    h.addresses[i]? = m.boards[i]?.map (·.address) := by
  have hentry := congrArg (Option.map Prod.fst) (hm.getElem?_boards i)
  rw [Option.map_map, Option.map_map] at hentry
  exact Option.map_id'.symm.trans hentry.symm

theorem length_boards (hm : m.Follows h) : m.boards.length = h.addresses.length := by
  have hlength := congrArg List.length hm.boards
  rw [List.length_map, History.boards, List.length_mapIdx] at hlength
  exact hlength

theorem installed_eq (hm : m.Follows h) {i : Nat} {b : Board η} (hb : m.boards[i]? = some b) :
    b.registry.installed = h.handlers i := by
  have hentry := hm.getElem?_boards i
  rw [hm.getElem?_addresses, hb] at hentry
  exact congrArg Prod.snd (Option.some.inj hentry)

theorem dispatch_eq (hm : m.Follows h) (d : Datagram) :
    m.dispatch d.sender (d.bytes.take packetCapacity) = h.calls d := by
  rw [History.calls, ← hm.boards, List.filter_map, List.flatMap_map, dispatch, targets]
  simp only [Registry.handlers, List.map_map]
  rfl

theorem mem_silentBoards_iff (hm : m.Follows h) (i : Nat) : i ∈ m.silentBoards ↔ h.Silent i := by
  rw [silentBoards, List.mem_filter, List.mem_range]
  cases hseen : m.lastSeen[i]? with
  | none =>
    have hbeyond := List.getElem?_eq_none_iff.mp hseen
    constructor
    · rintro ⟨hlt, -⟩
      omega
    · intro hsilent
      obtain ⟨address, hboard⟩ := hsilent.exists_address
      obtain ⟨hlt, -⟩ := List.getElem?_eq_some_iff.mp hboard
      have hlength := hm.length_boards
      have hclocks := hm.clocks
      omega
  | some seen =>
    obtain ⟨hlt, -⟩ := List.getElem?_eq_some_iff.mp hseen
    rw [Option.any_some, decide_eq_true_eq, (hm.seen i seen hseen).2]
    exact ⟨And.right, fun hsilent => ⟨hlt, hsilent⟩⟩

theorem notify_eq (hm : m.Follows h) (ids : List Nat) : ids.flatMap m.notify = h.reports ids := by
  unfold notify History.reports
  rw [hm.timeoutHandler]
  cases h.timeoutHandler? with
  | none => exact List.flatMap_eq_nil_iff.mpr fun _ _ => rfl
  | some handler => exact List.map_eq_flatMap.symm

end Follows

/-! ## Operations that nobody notices -/

/-- Managers with the same boards, observers, clocks and waiting datagrams. -/
structure Alike (m m' : Manager η) : Prop where
  boards : m'.boards.map Board.audience = m.boards.map Board.audience
  lastSeen : m'.lastSeen = m.lastSeen
  now : m'.now = m.now
  timeoutHandler : m'.timeoutHandler = m.timeoutHandler
  queued : m'.queued = m.queued

theorem Alike.refl (m : Manager η) : m.Alike m := ⟨rfl, rfl, rfl, rfl, rfl⟩

theorem Alike.trans {m m' m'' : Manager η} (ha : m.Alike m') (hb : m'.Alike m'') :
    m.Alike m'' :=
  ⟨hb.boards.trans ha.boards, hb.lastSeen.trans ha.lastSeen, hb.now.trans ha.now,
    hb.timeoutHandler.trans ha.timeoutHandler, hb.queued.trans ha.queued⟩

theorem Alike.length_boards {m m' : Manager η} (ha : m.Alike m') :
    m'.boards.length = m.boards.length := by
  have hlength := congrArg List.length ha.boards
  rw [List.length_map, List.length_map] at hlength
  exact hlength

theorem Follows.of_alike {m m' : Manager η} {h : History η} (hm : m.Follows h)
    (ha : m.Alike m') : m'.Follows h where
  boards := by
    have hboards := congrArg (List.map fun a => (a.1, a.2.installed)) ha.boards
    rw [List.map_map, List.map_map] at hboards
    exact hboards.trans hm.boards
  unused := by
    rw [ha.length_boards]
    exact hm.unused
  clocks := by rw [ha.lastSeen, ha.length_boards, hm.clocks]
  seen := by
    rw [ha.lastSeen, ha.now]
    exact hm.seen
  timeoutHandler := ha.timeoutHandler.trans hm.timeoutHandler
  queue := by rw [ha.queued, hm.queue]

section WithBoard

variable {α : Type} {m : Manager η} {id : Nat} {b : Board η} {refusal : Fault → α}
  {operation : Board η → α × Board η}

theorem withBoard_of_board (hb : m.boards[id]? = some b) :
    m.withBoard id refusal operation = ((operation b).1, m.setBoard id (operation b).2) := by
  simp only [withBoard, board, hb]

theorem withBoard_of_none (hb : m.boards[id]? = none) :
    m.withBoard id refusal operation = (refusal (.invalidBoardId id), m) := by
  simp only [withBoard, board, hb]

/-- What an operation on a board leaves behind is the manager as it was or one with that board
replaced. -/
theorem withBoard_induction {P : Manager η → Prop} (hm : P m)
    (hop : ∀ b, m.boards[id]? = some b → P (m.setBoard id (operation b).2)) :
    P (m.withBoard id refusal operation).2 := by
  cases hb : m.boards[id]? with
  | none =>
    rw [withBoard_of_none hb]
    exact hm
  | some b =>
    rw [withBoard_of_board hb]
    exact hop b hb

end WithBoard

section Handlers

variable {m : Manager η} {id : Nat} {b : Board η}

theorem install_of_board (hb : m.boards[id]? = some b) (handler : η) :
    m.install id handler = (.ok b.registry.next, m.setBoard id (b.install handler).2) :=
  withBoard_of_board hb

theorem install_of_none (hb : m.boards[id]? = none) (handler : η) :
    m.install id handler = (.error (.invalidBoardId id), m) :=
  withBoard_of_none hb

theorem remove_of_board (hb : m.boards[id]? = some b) (token : Nat) :
    m.remove id token =
      (.ok (b.registry.contains token), m.setBoard id (b.remove token).2) :=
  withBoard_of_board hb

theorem remove_of_none (hb : m.boards[id]? = none) (token : Nat) :
    m.remove id token = (.error (.invalidBoardId id), m) :=
  withBoard_of_none hb

end Handlers

theorem setBoard_self {m : Manager η} {i : Nat} {b : Board η} (hb : m.boards[i]? = some b) :
    m.setBoard i b = m := by
  obtain ⟨hlt, hget⟩ := List.getElem?_eq_some_iff.mp hb
  rw [setBoard, ← hget, List.set_getElem_self]

theorem map_boards_setBoard {α : Type} (view : Board η → α) {m : Manager η} {i : Nat}
    {b c : Board η} (hb : m.boards[i]? = some b) (hc : view c = view b) :
    (m.setBoard i c).boards.map view = m.boards.map view := by
  obtain ⟨hlt, hget⟩ := List.getElem?_eq_some_iff.mp hb
  show (m.boards.set i c).map view = m.boards.map view
  rw [List.map_set, hc, ← hget, ← List.map_set, List.set_getElem_self]

theorem alike_setBoard {m : Manager η} {id : Nat} {b c : Board η} (hb : m.boards[id]? = some b)
    (hc : c.audience = b.audience) : m.Alike (m.setBoard id c) :=
  ⟨map_boards_setBoard Board.audience hb hc, rfl, rfl, rfl, rfl⟩

theorem alike_withBoard {α : Type} {refusal : Fault → α} {operation : Board η → α × Board η}
    (hop : ∀ b, (operation b).2.audience = b.audience) (m : Manager η) (id : Nat) :
    m.Alike (m.withBoard id refusal operation).2 :=
  withBoard_induction (.refl m) fun b hb => alike_setBoard hb (hop b)

theorem alike_sendTcp (net : Network) (m : Manager η) (id : Nat) (packet : Packet) :
    m.Alike (m.sendTcp net id packet).2 :=
  alike_withBoard (·.audience_sendTcp net packet) m id

theorem alike_receiveTcp (m : Manager η) (id : Nat) (packet : Packet) :
    m.Alike (m.receiveTcp id packet).2 :=
  alike_withBoard (·.audience_receiveTcp packet) m id

theorem alike_sendUdp (net : Network) (m : Manager η) (id : Nat) (packet : Packet) :
    m.Alike (m.sendUdp net id packet).2 :=
  alike_withBoard (·.audience_sendUdp net packet) m id

theorem alike_bind (net : Network) (m : Manager η) : m.Alike (m.bind net).2 := by
  rw [bind]
  split
  · exact .refl m
  · rename_i hunbound
    split
    · exact .refl m
    · split
      · exact .refl m
      · have hnone : m.socket = none := Option.not_isSome_iff_eq_none.mp hunbound
        exact ⟨rfl, rfl, rfl, rfl, by rw [queued, queued, hnone]⟩

theorem audience_connectBoards (net : Network) (boards : List (Board η)) :
    (connectBoards net boards).2.map Board.audience = boards.map Board.audience := by
  induction boards with
  | nil => rfl
  | cons b rest ih =>
    have hb := b.audience_connect net
    rw [connectBoards]
    rcases hconnect : b.connect net with ⟨_ | _, c⟩ <;> rw [hconnect] at hb
    · show c.audience :: rest.map Board.audience = _
      rw [hb]
      rfl
    · show c.audience :: (connectBoards net rest).2.map Board.audience = _
      rw [ih, hb]
      rfl

theorem alike_connectAll (net : Network) (m : Manager η) : m.Alike (m.connectAll net).2 := by
  have ha := m.alike_bind net
  rw [connectAll]
  rcases hbind : m.bind net with ⟨_ | _, bound⟩ <;> rw [hbind] at ha
  · exact ha
  · exact ⟨(audience_connectBoards net bound.boards).trans ha.boards, ha.lastSeen, ha.now,
      ha.timeoutHandler, ha.queued⟩

theorem alike_withTimeout (m : Manager η) (timeout : Nat) : m.Alike (m.withTimeout timeout) := by
  rw [withTimeout]
  split
  · exact .refl m
  · split
    · exact ⟨rfl, rfl, rfl, rfl, rfl⟩
    · rename_i s hs
      split
      · exact .refl m
      · exact ⟨rfl, rfl, rfl, rfl, by rw [queued, queued, hs]⟩

theorem alike_startReceiving (m : Manager η) : m.Alike m.startReceiving.2 := by
  rw [startReceiving]
  split
  · exact ⟨rfl, rfl, rfl, rfl, rfl⟩
  · exact .refl m

theorem addBoard_of_error {m m' : Manager η} {spec : BoardSpec} {fault : Fault}
    (h : m.addBoard spec = (.error fault, m')) : m' = m := by
  rw [addBoard] at h
  split at h <;> cases h
  rfl

/-! ## Operations that make history -/

namespace Follows

variable {m m' : Manager η} {h : History η}

/-- What is left to show for an occurrence that leaves boards and handlers alone. -/
theorem concat_of_quiet (hm : m.Follows h) {o : Occurrence η} (haddress : o.address? = none)
    (hadd : ∀ board, o.addition board = [])
    (hkeep : ∀ board token, o.removes board token = false) (hboards : m'.boards = m.boards)
    (hclocks : m'.lastSeen.length = m.lastSeen.length)
    (hseen : ∀ i seen, m'.lastSeen[i]? = some seen →
      seen ≤ m'.now ∧ (seen < m'.now ↔ History.Silent (h ++ [o]) i))
    (htimeout : m'.timeoutHandler = o.timeoutHandler?.or m.timeoutHandler)
    (hqueue : m.queued ++ o.arrival?.toList = o.reception?.toList ++ m'.queued) :
    m'.Follows (h ++ [o]) where
  boards := by rw [hboards, hm.boards, h.boards_concat_of_quiet haddress hadd hkeep]
  unused := by
    intro i hi
    rw [hboards] at hi
    rw [History.handlers_concat_of_not_removes (hkeep i), hadd i, hm.unused i hi]
    rfl
  clocks := by rw [hclocks, hm.clocks, hboards]
  seen := hseen
  timeoutHandler := by rw [htimeout, hm.timeoutHandler, h.timeoutHandler?_concat]
  queue := by
    rw [h.arrivals_concat, h.receptions_concat, hm.queue, List.append_assoc, hqueue,
      List.append_assoc]

theorem wait (hm : m.Follows h) : m.wait.Follows (h ++ [.timePassed]) := by
  refine hm.concat_of_quiet rfl (fun _ => rfl) (fun _ _ => rfl) rfl rfl ?_ rfl (List.append_nil _)
  intro i seen hseen
  have hle := (hm.seen i seen hseen).1
  show seen ≤ m.now + 1 ∧ (seen < m.now + 1 ↔ _)
  have hboard : ∃ address, h.addresses[i]? = some address := by
    obtain ⟨hlt, -⟩ := List.getElem?_eq_some_iff.mp hseen
    have hlength := hm.clocks.trans hm.length_boards
    exact ⟨_, List.getElem?_eq_getElem (Nat.lt_of_lt_of_eq hlt hlength)⟩
  obtain ⟨address, hboard⟩ := hboard
  refine ⟨by omega, fun _ => ?_, fun _ => by omega⟩
  exact (h.silent_concat _ i).mpr ⟨address, hboard, Or.inl rfl⟩

theorem enqueue (hm : m.Follows h) (hbound : m.isBound = true) (d : Datagram) :
    (m.enqueue d).Follows (h ++ [.arrived d]) := by
  refine hm.concat_of_quiet rfl (fun _ => rfl) (fun _ _ => rfl) rfl rfl ?_ rfl ?_
  · intro i seen hseen
    rw [History.silent_concat_of_not_shows (o := .arrived d) (by simp) fun _ => rfl]
    exact hm.seen i seen hseen
  · obtain ⟨s, hs⟩ := Option.isSome_iff_exists.mp hbound
    simp [queued, Manager.enqueue, hs, Occurrence.arrival?, Occurrence.reception?]

theorem installTimeoutHandler (hm : m.Follows h) (handler : η) :
    (m.installTimeoutHandler handler).Follows (h ++ [.timeoutHandlerInstalled handler]) := by
  refine hm.concat_of_quiet rfl (fun _ => rfl) (fun _ _ => rfl) rfl (List.length_map _) ?_ rfl
    (List.append_nil _)
  intro i seen hseen
  -- Every clock now stands at the present.
  have hnow : seen = m.now := by
    rw [Manager.installTimeoutHandler, List.getElem?_map, Option.map_eq_some_iff] at hseen
    obtain ⟨_, -, rfl⟩ := hseen
    rfl
  show seen ≤ m.now ∧ (seen < m.now ↔ _)
  rw [h.silent_concat]
  refine ⟨by omega, fun hlt => by omega, ?_⟩
  rintro ⟨address, -, hpassed | ⟨-, hshows⟩⟩
  · cases hpassed
  · cases hshows

theorem afterTaking (hm : m.Follows h) {d : Datagram} {rest : List Datagram}
    (hqueued : m.queued = d :: rest) : (m.afterTaking d).Follows (h ++ [.received d]) := by
  refine hm.concat_of_quiet rfl (fun _ => rfl) (fun _ _ => rfl) rfl List.length_mapIdx ?_ rfl ?_
  · intro i seen hseen
    rw [Manager.afterTaking, refresh, List.getElem?_mapIdx, Option.map_eq_some_iff] at hseen
    obtain ⟨before, hbefore, hseen⟩ := hseen
    obtain ⟨hle, hsilent⟩ := hm.seen i before hbefore
    obtain ⟨hlt, -⟩ := List.getElem?_eq_some_iff.mp hbefore
    rw [hm.clocks] at hlt
    have hboard : m.boards[i]? = some m.boards[i] := List.getElem?_eq_getElem hlt
    have haddress : h.addresses[i]? = some m.boards[i].address := by
      rw [hm.getElem?_addresses, hboard, Option.map_some]
    simp only [hboard, Option.any_some, decide_eq_true_eq] at hseen
    show seen ≤ m.now ∧ (seen < m.now ↔ _)
    rw [h.silent_concat]
    by_cases hsender : m.boards[i].address = d.sender
    · rw [if_pos hsender] at hseen
      refine ⟨by omega, fun hlt => by omega, ?_⟩
      rintro ⟨address, ha, hpassed | ⟨-, hshows⟩⟩
      · cases hpassed
      · rw [haddress, Option.some.injEq] at ha
        exact absurd (hsender.symm.trans ha) (beq_eq_false_iff_ne.mp hshows)
    · rw [if_neg hsender] at hseen
      subst hseen
      refine ⟨hle, fun hlt => ?_, ?_⟩
      · have hshows := beq_eq_false_iff_ne.mpr fun h => hsender h.symm
        exact ⟨_, haddress, Or.inr ⟨hsilent.mp hlt, hshows⟩⟩
      · rintro ⟨address, -, hpassed | ⟨hwas, -⟩⟩
        · cases hpassed
        · exact hsilent.mpr hwas
  · rw [queued_afterTaking, hqueued]
    exact List.append_nil _

/-- Taking a datagram calls its handlers and then reports the boards that are silent. -/
theorem reactions_eq (hm : m.Follows h) {d : Datagram} {rest : List Datagram}
    (hqueued : m.queued = d :: rest) :
    m.reactions d = h.calls d ++ h.reports (m.afterTaking d).silentBoards := by
  have htaken := hm.afterTaking hqueued
  have hcalls : History.calls (h ++ [.received d]) d = h.calls d := by
    rw [History.calls, h.boards_concat_of_quiet rfl (fun _ => rfl) fun _ _ => rfl]
    rfl
  have hreports : ∀ ids, History.reports (h ++ [.received d]) ids = h.reports ids := by
    intro ids
    rw [History.reports, h.timeoutHandler?_concat]
    rfl
  rw [reactions, htaken.dispatch_eq, hcalls, sweep, htaken.notify_eq, hreports]

theorem receive (hm : m.Follows h) (packet : Packet) :
    (m.receive packet).manager.Follows (h ++ m.polled) := by
  rw [polled]
  cases hqueued : m.queued with
  | cons d rest =>
    rw [receive_of_queued hqueued]
    exact hm.afterTaking hqueued
  | nil =>
    rw [receive_of_queued_nil hqueued]
    cases m.isBound with
    | false => simpa using hm
    | true => exact hm.wait

theorem stopReceiving (hm : m.Follows h) :
    m.stopReceiving.2.2.Follows (h ++ if m.receiving then m.polled else []) := by
  rw [Manager.stopReceiving]
  cases m.receiving with
  | false => simpa using hm
  | true => exact (hm.receive Packet.empty).of_alike ⟨rfl, rfl, rfl, rfl, rfl⟩

theorem addBoard (hm : m.Follows h) {spec : BoardSpec} {id : Nat}
    (hadd : m.addBoard spec = (.ok id, m')) : m'.Follows (h ++ [.boardAdded spec.address]) := by
  rw [Manager.addBoard] at hadd
  split at hadd
  · cases hadd
  cases hadd
  have hhandlers : ∀ i, History.handlers i (h ++ [.boardAdded spec.address]) = h.handlers i := by
    intro i
    rw [History.handlers_concat_of_not_removes fun _ => rfl]
    exact List.append_nil _
  have hfresh := hm.unused m.boards.length (Nat.le_refl _)
  constructor
  · have hlength := hm.length_boards
    rw [List.map_append, hm.boards, History.boards, History.boards, h.addresses_concat,
      Occurrence.address?, Option.toList_some, List.mapIdx_append]
    simp only [hhandlers, List.map_cons, List.map_nil, List.mapIdx_cons, List.mapIdx_nil,
      Nat.zero_add, ← hlength, hfresh]
    rfl
  · intro i hi
    rw [List.length_append, List.length_singleton] at hi
    rw [hhandlers]
    exact hm.unused i (by omega)
  · rw [List.length_append, List.length_append, hm.clocks, List.length_singleton,
      List.length_singleton]
  · intro i seen hseen
    show seen ≤ m.now ∧ (seen < m.now ↔ _)
    rw [History.silent_concat_of_not_shows (o := .boardAdded spec.address) (by simp) fun _ => rfl]
    rw [getElem?_concat_eq_ite] at hseen
    split at hseen
    · rename_i hi
      -- The new board's clock starts at the present, and the history knows no such board yet.
      cases hseen
      refine ⟨Nat.le_refl _, fun hlt => absurd hlt (Nat.lt_irrefl _), fun hsilent => ?_⟩
      obtain ⟨address, hboard⟩ := hsilent.exists_address
      obtain ⟨hlt, -⟩ := List.getElem?_eq_some_iff.mp hboard
      rw [← hm.length_boards, ← hm.clocks] at hlt
      omega
    · exact hm.seen i seen hseen
  · rw [h.timeoutHandler?_concat]
    exact hm.timeoutHandler
  · rw [h.arrivals_concat, h.receptions_concat, hm.queue, List.append_assoc, List.append_assoc]
    exact congrArg _ (List.append_nil _)

/-- What is left to show for a change of one board's handlers. -/
theorem setBoard (hm : m.Follows h) {id : Nat} {b c : Board η} {o : Occurrence η}
    (hb : m.boards[id]? = some b) (haddress : c.address = b.address)
    (hinstalled : c.registry.installed =
      b.registry.installed.filter (fun entry => !o.removes id entry.1) ++ o.addition id)
    (hothers : ∀ i, i ≠ id → o.addition i = [] ∧ ∀ token, o.removes i token = false)
    (hadded : o.address? = none) (htime : o ≠ .timePassed)
    (hshows : ∀ address, o.shows address = false) (htimeout : o.timeoutHandler? = none)
    (hqueue : m.queued ++ o.arrival?.toList = o.reception?.toList ++ m.queued) :
    (m.setBoard id c).Follows (h ++ [o]) := by
  obtain ⟨hlt, -⟩ := List.getElem?_eq_some_iff.mp hb
  have hothers : ∀ i, i ≠ id → History.handlers i (h ++ [o]) = h.handlers i := by
    intro i hi
    obtain ⟨hadd, hkeep⟩ := hothers i hi
    rw [History.handlers_concat_of_not_removes hkeep, hadd, List.append_nil]
  constructor
  · apply List.ext_getElem?
    intro i
    show ((m.boards.set id c).map _)[i]? = _
    rw [History.boards, List.getElem?_mapIdx, h.addresses_concat, hadded, Option.toList_none,
      List.append_nil, List.getElem?_map]
    by_cases hi : i = id
    · subst hi
      rw [List.getElem?_set_self hlt, hm.getElem?_addresses, hb, History.handlers_concat,
        ← hm.installed_eq hb, ← hinstalled]
      show some (c.address, _) = some (b.address, _)
      rw [haddress]
    · rw [List.getElem?_set_ne (Ne.symm hi), hothers i hi, hm.getElem?_boards]
  · intro i hi
    rw [show (m.setBoard id c).boards.length = m.boards.length from List.length_set] at hi
    rw [hothers i (by omega)]
    exact hm.unused i hi
  · exact hm.clocks.trans List.length_set.symm
  · intro i seen hseen
    rw [History.silent_concat_of_not_shows htime hshows]
    exact hm.seen i seen hseen
  · rw [h.timeoutHandler?_concat, htimeout]
    exact hm.timeoutHandler
  · rw [h.arrivals_concat, h.receptions_concat, hm.queue, List.append_assoc, hqueue,
      List.append_assoc]
    rfl

theorem install (hm : m.Follows h) (id : Nat) (handler : η) :
    (m.install id handler).2.Follows
      (h ++ match (m.install id handler).1 with
        | .ok token => [.handlerInstalled id token handler]
        | .error _ => []) := by
  cases hb : m.boards[id]? with
  | none =>
    rw [install_of_none hb, List.append_nil]
    exact hm
  | some b =>
    rw [install_of_board hb]
    refine hm.setBoard hb rfl ?_ ?_ rfl nofun (fun _ => rfl) rfl (List.append_nil _)
    · have hkeep : b.registry.installed.filter (fun entry =>
          !(Occurrence.handlerInstalled id b.registry.next handler).removes id entry.1) =
          b.registry.installed := List.filter_eq_self.mpr fun _ _ => rfl
      rw [hkeep, Occurrence.addition, if_pos rfl]
      rfl
    · intro i hi
      exact ⟨if_neg (Ne.symm hi), fun _ => rfl⟩

theorem remove (hm : m.Follows h) (id token : Nat) :
    (m.remove id token).2.Follows
      (h ++ match (m.remove id token).1 with
        | .ok _ => [.handlerRemoved id token]
        | .error _ => []) := by
  cases hb : m.boards[id]? with
  | none =>
    rw [remove_of_none hb, List.append_nil]
    exact hm
  | some b =>
    rw [remove_of_board hb]
    refine hm.setBoard hb rfl ?_ ?_ rfl nofun (fun _ => rfl) rfl (List.append_nil _)
    · refine Eq.trans (List.filter_congr fun entry _ => ?_) (List.append_nil _).symm
      rw [Occurrence.removes, BEq.rfl, Bool.true_and]
      rfl
    · intro i hi
      refine ⟨rfl, fun t => ?_⟩
      rw [Occurrence.removes, beq_eq_false_iff_ne.mpr (Ne.symm hi), Bool.false_and]

end Follows
end Manager
end WrenchLink

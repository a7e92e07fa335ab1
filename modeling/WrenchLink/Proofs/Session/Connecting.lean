/-
What connecting leaves behind.

A board refuses if it wants a connection and does not get one.  Connecting opens the boards in
front of the first that refuses and touches no other: `Manager.connectBoards_of_refuses`.  Nothing
else opens a channel of a board or closes one (`Board.openness_of_moves`, `map_boards_step`).  So
whether a board can be sent to is decided by the connects of the run, each in the network that it
met: `openExactlyIf_passed`.
-/
import Mathlib.Data.List.Induction
import WrenchLink.Proofs.Board.Transfer
import WrenchLink.Proofs.Manager.BringUp
import WrenchLink.Proofs.Session.Lifecycle
import WrenchLink.Proofs.Session.BoardTable

namespace WrenchLink

variable {η τ : Type}

namespace Board

/-- What a single operation may make of a board, but for connecting it. -/
inductive Moves : Board η → Board η → Prop where
  | registry (b : Board η) (r : Registry η) : Moves b { b with registry := r }
  | sendTcp (b : Board η) (net : Network) (packet : Packet) : Moves b (b.sendTcp net packet).2
  | receiveTcp (b : Board η) (packet : Packet) : Moves b (b.receiveTcp packet).2
  | sendUdp (b : Board η) (net : Network) (packet : Packet) : Moves b (b.sendUdp net packet).2
  | deliver (b : Board η) (bytes : Bytes) : Moves b { b with tcp := b.tcp.deliver bytes }
  | hangUp (b : Board η) : Moves b { b with tcp := b.tcp.hangUp }

variable {b c : Board η} {net : Network} {fault : Fault}

/-- The board is to be connected by TCP, and that fails. -/
def Refuses (b : Board η) (net : Network) (fault : Fault) : Prop :=
  b.tcpService = true ∧ (b.tcp.connect net).1 = .error fault

theorem connectFault?_eq_some_iff : b.connectFault? net = some fault ↔ b.Refuses net fault := by
  rw [Refuses, connectFault?, TcpChannel.connect]
  cases b.tcpService with
  | false => simp
  | true =>
    cases net.accepting b.tcp.peer with
    | false => simp
    | true =>
      by_cases hzero : b.tcp.readTimeout = some 0
      · simp [hzero]
      · simp [hzero]

theorem connectFault?_eq_none_iff :
    b.connectFault? net = none ↔ ∀ fault, ¬b.Refuses net fault := by
  simp only [Option.eq_none_iff_forall_ne_some, ne_eq, connectFault?_eq_some_iff]

/-- Which services the board declares, and which of its channels are open. -/
def openness (b : Board η) : (Bool × Bool) × Bool × Bool :=
  ((b.tcpService, b.tcp.isConnected), b.udpService, b.udp.hasSocket)

theorem openness_of_moves (h : b.Moves c) : c.openness = b.openness := by
  cases h with
  | registry r => rfl
  | sendTcp net packet =>
    rw [sendTcp]
    cases b.require .tcp with
    | error refused => rfl
    | ok _ => cases hstream : b.tcp.stream <;>
        simp [openness, TcpChannel.isConnected, TcpChannel.send, hstream]
  | receiveTcp packet =>
    rw [receiveTcp]
    cases b.require .tcp with
    | error refused => rfl
    | ok _ => cases hstream : b.tcp.stream <;>
        simp [openness, TcpChannel.isConnected, TcpChannel.receive, hstream]
  | sendUdp net packet =>
    rw [sendUdp]
    cases b.require .udp with
    | error refused => rfl
    | ok _ =>
      cases hsocket : b.udp.hasSocket with
      | false => simp [openness, UdpChannel.send, hsocket]
      | true => rcases hsend : net.send .udp b.udp.destination packet.bytes with ⟨_ | _, taken⟩ <;>
          simp [openness, UdpChannel.send, hsocket, hsend]
  | deliver bytes => simp [openness, TcpChannel.isConnected, TcpChannel.deliver]
  | hangUp => simp [openness, TcpChannel.isConnected, TcpChannel.hangUp]

/-- The channels of the services that the board declares are open exactly if the condition
holds. -/
def OpenExactlyIf (b : Board η) (p : Prop) : Prop :=
  (b.tcpService = true → (b.tcp.isConnected = true ↔ p)) ∧
    (b.udpService = true → (b.udp.hasSocket = true ↔ p))

theorem OpenExactlyIf.congr {p : Prop} (hb : b.OpenExactlyIf p) (h : c.openness = b.openness) :
    c.OpenExactlyIf p := by
  simp only [openness, Prod.mk.injEq] at h
  obtain ⟨⟨htcp, hconnected⟩, hudp, hsocket⟩ := h
  rw [OpenExactlyIf, htcp, hconnected, hudp, hsocket]
  exact hb

theorem openExactlyIf_opened (b : Board η) {p : Prop} (hp : p) : b.opened.OpenExactlyIf p := by
  constructor
  · intro h
    have htcp : b.tcpService = true := h
    simp [opened, htcp, TcpChannel.isConnected, hp]
  · intro h
    have hudp : b.udpService = true := h
    simp [opened, hudp, UdpChannel.adoptSocket, hp]

theorem refusal?_ne_transport (net : Network) (service : Service) (peer : Endpoint)
    (bytes : Bytes) (cause : TransportFault) :
    net.refusal? service peer bytes ≠ some (.transport cause) := by
  rw [Network.refusal?]
  cases net.takes service peer bytes <;> simp

theorem firstObstacle?_eq_notConnected_iff {number : Nat} (htcp : b.tcpService = true)
    {t : Transfer} (ht : ∀ packet, t ≠ .sendUdp packet) :
    b.firstObstacle? net number t = some (.transport (.notConnected b.tcp.peer)) ↔
      ¬b.tcp.isConnected = true := by
  cases t with
  | sendUdp packet => exact absurd rfl (ht packet)
  | sendTcp packet =>
    have hsystem := refusal?_ne_transport net .tcp b.tcp.peer packet.bytes
    cases hconnected : b.tcp.isConnected <;>
      simp [firstObstacle?, obstacles, Fault.when, htcp, hconnected, hsystem]
  | receiveTcp =>
    rcases hstream : b.tcp.stream with _ | ⟨_ | ⟨byte, rest⟩, _ | _, sent⟩ <;>
      cases hbound : b.tcp.readTimeout <;>
      simp [firstObstacle?, obstacles, Fault.when, TcpChannel.isConnected, htcp, hstream, hbound]

theorem firstObstacle?_eq_notBound_iff {number : Nat} (hudp : b.udpService = true)
    (packet : Packet) :
    b.firstObstacle? net number (.sendUdp packet) = some .notBound ↔ ¬b.udp.hasSocket = true := by
  cases hsocket : b.udp.hasSocket <;> cases htakes : net.takes .udp b.udp.destination packet.bytes <;>
    simp [firstObstacle?, obstacles, Fault.when, Network.refusal?, hudp, hsocket, htakes]

theorem openExactlyIf_new {id : Nat} {spec : BoardSpec} {bound : Option Nat} {p : Prop}
    (hp : ¬p) : (new id spec bound : Board η).OpenExactlyIf p :=
  ⟨fun _ => iff_of_false Bool.false_ne_true hp, fun _ => iff_of_false Bool.false_ne_true hp⟩

end Board

namespace Manager

variable {m : Manager η} {net : Network}

/-- Connecting gets past the board of that number: the interface can be opened, and neither this
board nor one in front of it refuses. -/
def Passes (m : Manager η) (net : Network) (i : Nat) : Prop :=
  (m.bind net).1 = .ok () ∧ i < m.boards.length ∧
    ∀ b ∈ m.boards.take (i + 1), ∀ fault, ¬b.Refuses net fault

theorem boards_bind (net : Network) (m : Manager η) : (m.bind net).2.boards = m.boards := by
  cases hbound : m.isBound with
  | true => rw [bind_of_bound hbound]
  | false =>
    rw [bind_of_unbound hbound]
    split
    · split <;> rfl
    · rfl

theorem connectAll_of_bind (h : (m.bind net).1 = .ok ()) :
    m.connectAll net = ((connectBoards net m.boards).1,
      { (m.bind net).2 with boards := (connectBoards net m.boards).2 }) := by
  have hboards := m.boards_bind net
  rw [connectAll]
  rcases hbind : m.bind net with ⟨_ | _, bound⟩ <;> rw [hbind] at h hboards
  · cases h
  · rw [← hboards]

theorem connectAll_of_bind_error {fault : Fault} (h : (m.bind net).1 = .error fault) :
    m.connectAll net = (.error fault, m) := by
  have hsame := bind_of_error h
  rw [connectAll]
  rcases hbind : m.bind net with ⟨_ | _, bound⟩ <;> rw [hbind] at h hsame
  · cases h
    rw [← hsame]
  · cases h

theorem connectBoards_of_refuses {front rest : List (Board η)} {b : Board η} {fault : Fault}
    (hfront : ∀ c ∈ front, ∀ fault, ¬c.Refuses net fault) (hb : b.Refuses net fault) :
    connectBoards net (front ++ b :: rest) =
      (.error fault, front.map Board.opened ++ b :: rest) := by
  induction front with
  | nil =>
    rw [List.nil_append, connectBoards, Board.connect_eq, Board.connectFault?_eq_some_iff.mpr hb]
    rfl
  | cons c front ih =>
    have hc := Board.connectFault?_eq_none_iff.mpr (hfront c List.mem_cons_self)
    have hrest := ih fun d hd => hfront d (List.mem_cons_of_mem c hd)
    rw [List.cons_append, connectBoards, Board.connect_eq, hc]
    simp only [Option.elim_none, hrest]
    rfl

theorem getElem?_connectBoards (net : Network) (boards : List (Board η)) (i : Nat) :
    (connectBoards net boards).2[i]? =
      if (boards.take (i + 1)).all (·.connects net) then boards[i]?.map Board.opened
      else boards[i]? := by
  induction boards generalizing i with
  | nil => simp [connectBoards]
  | cons b rest ih =>
    rw [connectBoards, Board.connect_eq]
    cases hb : b.connectFault? net with
    | some fault => simp [Board.connects, hb]
    | none =>
      cases i with
      | zero => simp [Board.connects, hb]
      | succ i => simpa [Board.connects, hb] using ih i

theorem all_connects_iff {boards : List (Board η)} :
    boards.all (·.connects net) = true ↔ ∀ b ∈ boards, ∀ fault, ¬b.Refuses net fault := by
  simp only [List.all_eq_true, Board.connects_iff, Board.connectFault?_eq_none_iff]

theorem getElem?_connectAll_of_passes {i : Nat} (h : m.Passes net i) :
    (m.connectAll net).2.boards[i]? = m.boards[i]?.map Board.opened := by
  obtain ⟨hbind, -, hfront⟩ := h
  rw [connectAll_of_bind hbind, getElem?_connectBoards, if_pos (all_connects_iff.mpr hfront)]

theorem getElem?_connectAll_of_not_passes {i : Nat} (h : ¬m.Passes net i) :
    (m.connectAll net).2.boards[i]? = m.boards[i]? := by
  cases hbind : (m.bind net).1 with
  | error fault => rw [connectAll_of_bind_error hbind]
  | ok _ =>
    rw [connectAll_of_bind hbind, getElem?_connectBoards]
    split
    · rename_i hall
      have hbeyond : m.boards.length ≤ i := by
        by_contra hlt
        exact h ⟨hbind, by omega, all_connects_iff.mp hall⟩
      rw [List.getElem?_eq_none hbeyond, Option.map_none]
    · rfl

end Manager

namespace Session

variable {s : Session τ} {net : Network}

/-! ## What leaves connections alone -/

section View

variable {α : Type} {view : Board (Callback τ) → α}

theorem map_boards_withBoard (hview : ∀ b c, b.Moves c → view c = view b) {β : Type}
    {refusal : Fault → β}
    {operation : Board (Callback τ) → β × Board (Callback τ)}
    (hop : ∀ b, Board.Moves b (operation b).2)
    (m : Manager (Callback τ)) (id : Nat) :
    (m.withBoard id refusal operation).2.boards.map view = m.boards.map view :=
  Manager.withBoard_induction (P := fun m' => m'.boards.map view = m.boards.map view) rfl
    fun b hb => Manager.map_boards_setBoard view hb (hview b _ (hop b))

theorem boards_receive (m : Manager (Callback τ)) (packet : Packet) :
    (m.receive packet).manager.boards = m.boards := by
  cases hqueued : m.queued with
  | nil =>
    rw [Manager.receive_of_queued_nil hqueued]
    split <;> rfl
  | cons d rest =>
    rw [Manager.receive_of_queued hqueued]
    rfl

theorem boards_stopReceiving (m : Manager (Callback τ)) :
    m.stopReceiving.2.2.boards = m.boards := by
  rw [Manager.stopReceiving]
  split
  · exact boards_receive m Packet.empty
  · rfl

/-- A view of the boards that no move of a board changes is kept by whatever neither adds boards
nor connects them. -/
theorem map_boards_step (hview : ∀ b c, b.Moves c → view c = view b) (net : Network)
    (s : Session τ) {operation : Operation τ} (hnew : ∀ spec, operation ≠ .addBoard spec)
    (hconnect : operation ≠ .connectAll) :
    (s.step net operation).session.manager.boards.map view = s.manager.boards.map view := by
  let P : Manager (Callback τ) → Prop := fun m => m.boards.map view = s.manager.boards.map view
  have hs : P s.manager := rfl
  have hinstall : ∀ board handler, P (s.manager.install board handler).2 :=
    fun board _ => map_boards_withBoard hview (fun b => .registry b _) s.manager board
  have hremove : ∀ board token, P (s.manager.remove board token).2 :=
    fun board _ => map_boards_withBoard hview (fun b => .registry b _) s.manager board
  have hsend : ∀ m board packet, P m → P (m.sendTcp net board packet).2 :=
    fun m board packet hm =>
      (map_boards_withBoard hview (fun b => .sendTcp b net packet) m board).trans hm
  have hreceive : ∀ m board packet, P m → P (m.receiveTcp board packet).2 :=
    fun m board packet hm =>
      (map_boards_withBoard hview (fun b => .receiveTcp b packet) m board).trans hm
  cases operation with
  | addBoard spec => exact absurd rfl (hnew spec)
  | connectAll => exact absurd rfl hconnect
  | bind => exact congrArg _ (s.manager.boards_bind net)
  | withTimeout milliseconds =>
    show (s.manager.withTimeout milliseconds).boards.map view = _
    rw [Manager.withTimeout_eq]
    split <;> rfl
  | startReceiving =>
    show s.manager.startReceiving.2.boards.map view = _
    rw [Manager.startReceiving_eq]
    split <;> rfl
  | stopReceiving =>
    rw [step_stopReceiving]
    exact congrArg _ (boards_stopReceiving s.manager)
  | install board tag => exact hinstall board _
  | remove board token => exact hremove board token
  | handlerCount board => exact hs
  | sendTcp board packet => exact hsend s.manager board packet hs
  | receiveTcp board packet => exact hreceive s.manager board packet hs
  | sendUdp board packet =>
    exact map_boards_withBoard hview (fun b => .sendUdp b net packet) s.manager board
  | receive =>
    rw [step_receive]
    exact congrArg _ (boards_receive s.manager s.inbox)
  | attachSensor board =>
    show P (s.attachSensor board).2.manager
    rw [manager_attachSensor_eq]
    exact hinstall board _
  | configureSensor index settleTime limits | settles index =>
    rw [step]
    cases s.sensor? index <;> rfl
  | dropSensor index => exact manager_dropSensor (P := P) hs index hremove
  | request index request =>
    exact manager_request (P := P) hs fun x => x.perform_induction net hsend hreceive hs request
  | loopCatchesUp =>
    refine loopCatchesUp_induction (P := fun t _ => P t.manager) (h := []) net
      (fun _ _ _ ht => ht) (fun t _ ht => ?_) hs
    rw [step_receive]
    exact (congrArg _ (boards_receive t.manager t.inbox)).trans ht
  | boardWrites board bytes =>
    exact manager_withStream (P := P) hs fun b hb =>
      Manager.map_boards_setBoard view hb (hview _ _ (.deliver b bytes))
  | boardHangsUp board =>
    exact manager_withStream (P := P) hs fun b hb =>
      Manager.map_boards_setBoard view hb (hview _ _ (.hangUp b))
  | withTcpReadTimeout | installTimeoutHandler | datagramArrives | timePasses => rfl

end View

/-! ## What the connects of a run decide -/

/-- Some connect of the run got past the board of that number. -/
def Passed (interface : Endpoint) (steps : List (Network × Operation τ)) (i : Nat) : Prop :=
  ∃ before net later, steps = before ++ (net, .connectAll) :: later ∧
    ((opened interface).through before).manager.Passes net i

section Passed

variable {interface : Endpoint} {steps : List (Network × Operation τ)} {i : Nat}

theorem passed_concat {operation : Operation τ} :
    Passed interface (steps ++ [(net, operation)]) i ↔
      Passed interface steps i ∨
        (operation = .connectAll ∧ ((opened interface).through steps).manager.Passes net i) := by
  constructor
  · rintro ⟨before, net', later, hsteps, hpasses⟩
    rcases later.eq_nil_or_concat with rfl | ⟨later, last, rfl⟩
    · obtain ⟨rfl, hlast⟩ := List.append_inj' hsteps rfl
      cases hlast
      exact Or.inr ⟨rfl, hpasses⟩
    · rw [List.concat_eq_append, ← List.cons_append, ← List.append_assoc] at hsteps
      obtain ⟨rfl, -⟩ := List.append_inj' hsteps rfl
      exact Or.inl ⟨before, net', later, rfl, hpasses⟩
  · rintro (⟨before, net', later, rfl, hpasses⟩ | ⟨rfl, hpasses⟩)
    · refine ⟨before, net', later ++ [(net, operation)], ?_, hpasses⟩
      rw [List.append_assoc, List.cons_append]
    · exact ⟨steps, net, [], rfl, hpasses⟩

theorem length_boards_le_step (hs : s.manager.Tabled) (net : Network) (operation : Operation τ) :
    s.manager.boards.length ≤ (s.step net operation).session.manager.boards.length := by
  have hlength := (tabled_step net hs operation).2.length_le
  rwa [Manager.entries, Manager.entries, List.length_map, List.length_map] at hlength

theorem lt_length_of_passed (h : Passed interface steps i) :
    i < ((opened interface).through steps).manager.boards.length := by
  induction steps using List.reverseRecOn with
  | nil =>
    obtain ⟨before, net, later, hsteps, -⟩ := h
    cases before <;> cases hsteps
  | append_singleton steps last ih =>
    rw [through_concat]
    have hgrows := length_boards_le_step (tabled_opened_through interface steps) last.1 last.2
    obtain hbefore | ⟨-, -, hlt, -⟩ := passed_concat.mp h
    · exact Nat.lt_of_lt_of_le (ih hbefore) hgrows
    · exact Nat.lt_of_lt_of_le hlt hgrows

/-- At any point of a run, the channels of the services that a board declares are open exactly
if a connect got past the board. -/
theorem openExactlyIf_passed (interface : Endpoint) (steps : List (Network × Operation τ))
    {i : Nat} {b : Board (Callback τ)}
    (hb : ((opened interface).through steps).manager.boards[i]? = some b) :
    b.OpenExactlyIf (Passed interface steps i) := by
  induction steps using List.reverseRecOn generalizing i b with
  | nil => cases hb
  | append_singleton steps last ih =>
    obtain ⟨net, operation⟩ := last
    rw [through_concat] at hb
    rw [passed_concat]
    generalize hs : (opened interface).through steps = s at hb ih
    by_cases hconnect : operation = .connectAll
    · subst hconnect
      change (s.manager.connectAll net).2.boards[i]? = some b at hb
      by_cases hpasses : s.manager.Passes net i
      · rw [Manager.getElem?_connectAll_of_passes hpasses] at hb
        obtain ⟨c, hc, rfl⟩ := Option.map_eq_some_iff.mp hb
        exact c.openExactlyIf_opened (Or.inr ⟨rfl, hpasses⟩)
      · rw [Manager.getElem?_connectAll_of_not_passes hpasses] at hb
        rw [or_iff_left fun h => hpasses h.2]
        exact ih hb
    · rw [or_iff_left fun h => hconnect h.1]
      by_cases hnew : ∃ spec, operation = .addBoard spec
      · obtain ⟨spec, rfl⟩ := hnew
        change (s.manager.addBoard spec).2.boards[i]? = some b at hb
        rw [Manager.addBoard] at hb
        split at hb
        · exact ih hb
        · change (s.manager.boards ++ [_])[i]? = some b at hb
          rw [getElem?_concat_eq_ite] at hb
          split at hb
          · rename_i hi
            cases hb
            -- The new board is not open, and no connect of the run can have met it.
            have hnot : ¬Passed interface steps i := by
              intro h
              have hlt := lt_length_of_passed h
              rw [hs] at hlt
              omega
            exact Board.openExactlyIf_new hnot
          · exact ih hb
      · have hviews := map_boards_step (fun _ _ => Board.openness_of_moves) net s
          (fun spec h => hnew ⟨spec, h⟩) hconnect
        have hview := congrArg (·[i]?) hviews
        simp only [List.getElem?_map, hb, Option.map_some] at hview
        obtain ⟨c, hc, hopenness⟩ := Option.map_eq_some_iff.mp hview.symm
        exact (ih hc).congr hopenness.symm

/-! ## Connecting -/

theorem step_connectAll (net : Network) (s : Session τ) :
    s.step net .connectAll = ⟨(s.manager.connectAll net).1.map fun _ => .done, [],
      { s with manager := (s.manager.connectAll net).2 }⟩ :=
  rfl

theorem step_connectAll_of_bind (h : (s.manager.bind net).1 = .ok ()) :
    s.step net .connectAll =
      ⟨(Manager.connectBoards net s.manager.boards).1.map fun _ => .done, [],
        { s with manager :=
          { (s.manager.bind net).2 with
            boards := (Manager.connectBoards net s.manager.boards).2 } }⟩ := by
  rw [step_connectAll, Manager.connectAll_of_bind h]

/-- After any run, in networks that may have changed: if the interface cannot be opened, connecting
fails over that and changes nothing.  Otherwise the boards in front of the first that refuses are
opened anew, that board and those behind it stay as they are, and its fault is the outcome; if none
refuses, all are opened.  So a board with TCP is not connected exactly if no connect so far got
past it, and a board with UDP has no socket exactly then. -/
theorem connectAll_opens_front (interface : Endpoint) (steps : List (Network × Operation τ))
    (net : Network) :
    let s := (opened interface).through steps
    let stepped := s.step net .connectAll
    (∀ fault, (s.manager.bind net).1 = .error fault → stepped = ⟨.error fault, [], s⟩) ∧
    ((s.manager.bind net).1 = .ok () → ∃ boards : List (Board (Callback τ)),
      stepped.notices = [] ∧
      stepped.session = { s with manager := { (s.manager.bind net).2 with boards } } ∧
      (∀ front b rest fault, s.manager.boards = front ++ b :: rest → b.Refuses net fault →
        (∀ c ∈ front, ∀ fault, ¬c.Refuses net fault) →
          stepped.outcome = .error fault ∧ boards = front.map Board.opened ++ b :: rest) ∧
      ((∀ b ∈ s.manager.boards, ∀ fault, ¬b.Refuses net fault) →
        stepped.outcome = .ok .done ∧ boards = s.manager.boards.map Board.opened)) ∧
    ∀ i (b : Board (Callback τ)), s.manager.boards[i]? = some b → ∀ (net' : Network) packet,
      (b.tcpService = true →
        ((s.step net' (.sendTcp i packet)).outcome =
            .error (.transport (.notConnected b.tcp.peer)) ↔ ¬Passed interface steps i) ∧
        ((s.step net' (.receiveTcp i packet)).outcome =
            .error (.transport (.notConnected b.tcp.peer)) ↔ ¬Passed interface steps i)) ∧
      (b.udpService = true →
        ((s.step net' (.sendUdp i packet)).outcome = .error .notBound ↔
          ¬Passed interface steps i)) := by
  intro s stepped
  refine ⟨fun fault hbind => ?_, fun hbind => ?_, fun i b hb net' packet => ?_⟩
  · have hconnect := Manager.connectAll_of_bind_error hbind
    show s.step net .connectAll = _
    rw [step_connectAll, hconnect]
    rfl
  · have hstepped : stepped = _ := step_connectAll_of_bind hbind
    refine ⟨_, congrArg Stepped.notices hstepped, congrArg Stepped.session hstepped, ?_, ?_⟩
    · intro front b rest fault hboards hrefuses hfront
      have hconnect : Manager.connectBoards net (front ++ b :: rest) = _ :=
        Manager.connectBoards_of_refuses hfront hrefuses
      rw [hstepped, hboards, hconnect]
      exact ⟨rfl, rfl⟩
    · intro hnone
      have hconnect := Manager.connectBoards_of_no_fault fun b hb =>
        Board.connectFault?_eq_none_iff.mpr (hnone b hb)
      rw [hstepped, hconnect]
      exact ⟨rfl, rfl⟩
  · have htabled : s.manager.Tabled := tabled_opened_through interface steps
    obtain ⟨htcp, hudp⟩ := openExactlyIf_passed interface steps hb
    have hobstacle : ∀ t, s.manager.obstacle? net' i t = b.firstObstacle? net' i t := by
      intro t
      rw [Manager.obstacle?, hb, Option.elim_some]
    refine ⟨fun hservice => ⟨?_, ?_⟩, fun hservice => ?_⟩
    · rw [outcome_transfer_eq_error_iff htabled net' (t := .sendTcp packet) rfl, hobstacle,
        Board.firstObstacle?_eq_notConnected_iff hservice (fun _ h => Transfer.noConfusion h),
        htcp hservice]
    · rw [outcome_transfer_eq_error_iff htabled net' (t := .receiveTcp) rfl, hobstacle,
        Board.firstObstacle?_eq_notConnected_iff hservice (fun _ h => Transfer.noConfusion h),
        htcp hservice]
    · rw [outcome_transfer_eq_error_iff htabled net' (t := .sendUdp packet) rfl, hobstacle,
        Board.firstObstacle?_eq_notBound_iff hservice, hudp hservice]

end Passed

end Session
end WrenchLink

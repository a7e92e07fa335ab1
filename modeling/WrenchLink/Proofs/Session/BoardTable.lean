/-
The table of boards over whole runs.

Only `addBoard` changes the table, so the entries that are there once stay there:
`tabled_through`.  What names a board looks for it before anything else, and fails
exactly if it is not there: `outcome_of_board?`.
-/
import WrenchLink.Proofs.Manager.BoardTable
import WrenchLink.Proofs.Session.Run

namespace WrenchLink

/-- The board that an operation names, if it needs one. -/
def Operation.board? {τ : Type} : Operation τ → Option Nat
  | .install board _ | .remove board _ | .handlerCount board | .sendTcp board _
  | .receiveTcp board _ | .sendUdp board _ | .attachSensor board => some board
  | _ => none

namespace Session

variable {τ : Type} {s : Session τ}

theorem manager_dropSensor {P : Manager (Callback τ) → Prop} (hs : P s.manager) (index : Nat)
    (h : ∀ board token, P (s.manager.remove board token).2) :
    P (s.dropSensor index).manager := by
  rw [dropSensor]
  split
  · exact hs
  · exact h _ _

theorem manager_request {P : Manager (Callback τ) → Prop} {net : Network} (hs : P s.manager)
    {index : Nat} {request : Request}
    (h : ∀ x : Sensor, P (x.perform net s.manager request).manager) :
    P (s.step net (.request index request)).session.manager := by
  rw [step]
  cases s.sensor? index with
  | none => exact hs
  | some x => exact h x

theorem manager_withStream {P : Manager (Callback τ) → Prop} (hs : P s.manager) {board : Nat}
    {f : TcpChannel → TcpChannel}
    (h : ∀ b, s.manager.boards[board]? = some b →
      P (s.manager.setBoard board { b with tcp := f b.tcp })) :
    P (s.withStream board f).session.manager := by
  rw [withStream]
  cases hb : s.manager.boards[board]? with
  | none => exact hs
  | some b => exact h b hb

theorem sameTable_step (net : Network) (s : Session τ) {operation : Operation τ}
    (hnew : ∀ spec, operation ≠ .addBoard spec) :
    s.manager.SameTable (s.step net operation).session.manager := by
  have hs := Manager.SameTable.refl s.manager
  cases operation with
  | addBoard spec => exact absurd rfl (hnew spec)
  | bind => exact s.manager.sameTable_bind net
  | connectAll => exact s.manager.sameTable_connectAll net
  | withTimeout milliseconds => exact s.manager.sameTable_withTimeout milliseconds
  | withTcpReadTimeout milliseconds => exact ⟨rfl, rfl⟩
  | startReceiving => exact s.manager.sameTable_startReceiving
  | stopReceiving =>
    rw [step_stopReceiving]
    exact s.manager.sameTable_stopReceiving
  | installTimeoutHandler tag => exact ⟨rfl, List.length_map _⟩
  | install board tag => exact s.manager.sameTable_install board _
  | remove board token => exact s.manager.sameTable_remove board token
  | handlerCount board => exact hs
  | sendTcp board packet => exact s.manager.sameTable_sendTcp net board packet
  | receiveTcp board packet => exact s.manager.sameTable_receiveTcp board packet
  | sendUdp board packet => exact s.manager.sameTable_sendUdp net board packet
  | receive =>
    rw [step_receive]
    exact s.manager.sameTable_receive s.inbox
  | attachSensor board =>
    show s.manager.SameTable (s.attachSensor board).2.manager
    rw [manager_attachSensor_eq]
    exact s.manager.sameTable_install board _
  | configureSensor index settleTime limits | settles index =>
    rw [step]
    cases s.sensor? index <;> exact hs
  | dropSensor index => exact manager_dropSensor hs index s.manager.sameTable_remove
  | request index request =>
    refine manager_request hs fun x => x.perform_induction net ?_ ?_ hs request
    · exact fun m id packet h => h.trans (m.sameTable_sendTcp net id packet)
    · exact fun m id packet h => h.trans (m.sameTable_receiveTcp id packet)
  | datagramArrives d => exact ⟨rfl, rfl⟩
  | loopCatchesUp =>
    refine loopCatchesUp_induction (P := fun t _ => s.manager.SameTable t.manager) (h := []) net
      (fun _ _ _ ht => ht) (fun t _ ht => ht.trans ?_) hs
    rw [step_receive]
    exact t.manager.sameTable_receive t.inbox
  | timePasses => exact ⟨rfl, rfl⟩
  | boardWrites board bytes =>
    exact manager_withStream hs fun b hb => Manager.sameTable_setBoard hb rfl
  | boardHangsUp board =>
    exact manager_withStream hs fun b hb => Manager.sameTable_setBoard hb rfl

theorem tabled_step (net : Network) (hs : s.manager.Tabled) (operation : Operation τ) :
    (s.step net operation).session.manager.Tabled ∧
      s.manager.entries <+: (s.step net operation).session.manager.entries := by
  by_cases hnew : ∃ spec, operation = .addBoard spec
  · obtain ⟨spec, rfl⟩ := hnew
    show (s.manager.addBoard spec).2.Tabled ∧ _ <+: (s.manager.addBoard spec).2.entries
    rcases hadd : s.manager.addBoard spec with ⟨_ | id, m⟩
    · rw [Manager.addBoard_of_error hadd]
      exact ⟨hs, List.prefix_rfl⟩
    · obtain ⟨htabled, hentries⟩ := hs.addBoard hadd
      exact ⟨htabled, ⟨_, hentries.symm⟩⟩
  · have hsame := s.sameTable_step net fun spec h => hnew ⟨spec, h⟩
    exact ⟨hs.of_sameTable hsame, [], by rw [List.append_nil, hsame.entries]⟩

theorem tabled_through (hs : s.manager.Tabled) (steps : List (Network × Operation τ)) :
    (s.through steps).manager.Tabled ∧ s.manager.entries <+: (s.through steps).manager.entries := by
  refine through_induction
    (P := fun t => t.manager.Tabled ∧ s.manager.entries <+: t.manager.entries) steps
    (fun t net operation ht => ?_) ⟨hs, List.prefix_rfl⟩
  obtain ⟨htabled, hentries⟩ := tabled_step net ht.1 operation
  exact ⟨htabled, ht.2.trans hentries⟩

theorem tabled_opened_through (interface : Endpoint) (steps : List (Network × Operation τ)) :
    ((opened interface).through steps).manager.Tabled :=
  (tabled_through (s := opened interface) (Manager.tabled_new interface) steps).1

theorem outcome_lift_eq_error_iff {α : Type} {reply : α → Reply} {fault : Fault}
    {result : Except Fault α × Manager (Callback τ)} :
    (s.lift reply result).outcome = .error fault ↔ result.1 = .error fault := by
  rw [lift]
  cases result.1 <;> simp [Except.map]

/-- An operation that names a board fails over a board's number exactly if there is no board of
the number that it names. -/
theorem outcome_of_board? (net : Network) (s : Session τ) {operation : Operation τ} {board : Nat}
    (h : operation.board? = some board) (i : Nat) :
    (s.step net operation).outcome = .error (.invalidBoardId i) ↔
      s.manager.boards.length ≤ board ∧ i = board := by
  cases operation with
  | install | remove =>
    cases h
    rw [step, outcome_lift_eq_error_iff]
    exact Manager.withBoard_eq_invalidBoardId_iff id (fun _ => rfl) fun _ h => by cases h
  | sendTcp _ packet =>
    cases h
    rw [step, outcome_lift_eq_error_iff]
    exact Manager.withBoard_eq_invalidBoardId_iff id (fun _ => rfl)
      (·.sendTcp_ne_invalidBoardId net packet i)
  | receiveTcp _ packet =>
    cases h
    rw [step, outcome_lift_eq_error_iff]
    exact Manager.withBoard_eq_invalidBoardId_iff Receipt.received (fun _ => rfl)
      (·.receiveTcp_ne_invalidBoardId packet i)
  | sendUdp _ packet =>
    cases h
    rw [step, outcome_lift_eq_error_iff]
    exact Manager.withBoard_eq_invalidBoardId_iff id (fun _ => rfl)
      (·.sendUdp_ne_invalidBoardId net packet i)
  | handlerCount =>
    cases h
    rw [step, outcome_lift_eq_error_iff, Manager.handlerCount_eq_error_iff,
      Fault.invalidBoardId.injEq]
  | attachSensor =>
    cases h
    have hinstall : (s.manager.install board (.sensor s.sensors.length)).1 =
        .error (.invalidBoardId i) ↔ s.manager.boards.length ≤ board ∧ i = board :=
      Manager.withBoard_eq_invalidBoardId_iff id (fun _ => rfl) fun _ h => by cases h
    rw [← hinstall, step, attachSensor]
    rcases s.manager.install board (.sensor s.sensors.length) with ⟨_ | _, m⟩ <;>
      simp [Except.map]
  | _ => cases h

theorem outcome_addBoard (net : Network) (s : Session τ) (spec : BoardSpec) :
    (s.step net (.addBoard spec)).outcome =
      if s.manager.boards.length < maxBoards then .ok (.number s.manager.boards.length)
      else .error .boardLimitReached := by
  rw [step, Manager.addBoard]
  by_cases hroom : s.manager.boards.length < maxBoards
  · rw [if_pos hroom, if_neg (Nat.not_le.mpr hroom)]
    rfl
  · rw [if_neg hroom, if_pos (Nat.not_lt.mp hroom)]
    rfl

/-- In every session that operations lead to from a new manager, there are at most four boards,
each at the place of its number and with a clock of its own.  A datagram restarts the clock of
every board that it goes to, found by the board's number, whether one receive takes it or the
loop.  What a board was added with stays whatever comes later.  There is room for a board while
there are fewer than four, and its number is how many were there.  And what names a board fails
over its number exactly if there is no such board. -/
theorem board_table_is_kept (interface : Endpoint) (steps : List (Network × Operation τ)) :
    let s := (opened interface).through steps
    s.manager.boards.length ≤ maxBoards ∧
    (∀ i (b : Board (Callback τ)), s.manager.boards[i]? = some b → b.id = i) ∧
    s.manager.lastSeen.length = s.manager.boards.length ∧
    (∀ net d rest, s.manager.queued = d :: rest →
      (s.step net .receive).session.manager.lastSeen =
        (s.manager.targets d.sender).foldl (fun seen b => seen.set b.id s.manager.now)
          s.manager.lastSeen ∧
      ∀ b ∈ s.manager.targets d.sender,
        (s.step net .receive).session.manager.lastSeen[b.id]? = some s.manager.now) ∧
    (∀ net, ∀ d ∈ s.manager.queued, ∀ b ∈ s.manager.targets d.sender,
      (s.step net .loopCatchesUp).session.manager.lastSeen[b.id]? = some s.manager.now) ∧
    (∀ (later : List (Network × Operation τ)) (i : Nat) (b : Board (Callback τ)),
      s.manager.boards[i]? = some b → ∃ c : Board (Callback τ),
        (s.through later).manager.boards[i]? = some c ∧ c.entry = b.entry) ∧
    (∀ net spec, (s.step net (.addBoard spec)).outcome =
      if s.manager.boards.length < maxBoards then .ok (.number s.manager.boards.length)
      else .error .boardLimitReached) ∧
    (∀ net operation board i, operation.board? = some board →
      ((s.step net operation).outcome = .error (.invalidBoardId i) ↔
        s.manager.boards.length ≤ board ∧ i = board)) := by
  intro s
  have hs : s.manager.Tabled := tabled_opened_through interface steps
  refine ⟨hs.few, fun i b => hs.id_eq, hs.clocks, fun net d rest hqueued => ?_,
    fun net d hd b hb => ?_, fun later i b hb => ?_, fun net => s.outcome_addBoard net,
    fun net operation board i h => ?_⟩
  · rw [step_receive, Manager.receive_of_queued hqueued]
    have htaken : (s.manager.afterTaking d).lastSeen = (s.manager.refresh d.sender).lastSeen := rfl
    refine ⟨?_, fun b hb => Manager.lastSeen_of_mem_targets hs hb⟩
    exact htaken.trans (Manager.lastSeen_refresh_eq_foldl hs d.sender)
  · rw [step_loopCatchesUp]
    exact Manager.lastSeen_drain hs rfl Packet.empty (Or.inr ⟨d, hd, hb⟩)
  · obtain ⟨added, hadded⟩ := (tabled_through hs later).2
    have hentry : s.manager.entries[i]? = some b.entry := by
      rw [Manager.entries, List.getElem?_map, hb, Option.map_some]
    obtain ⟨hlt, -⟩ := List.getElem?_eq_some_iff.mp hentry
    have hlater : (s.through later).manager.entries[i]? = some b.entry := by
      rw [← hadded, List.getElem?_append_left hlt, hentry]
    rw [Manager.entries, List.getElem?_map, Option.map_eq_some_iff] at hlater
    exact hlater
  · exact s.outcome_of_board? net h i

end Session
end WrenchLink

/-
What a step changes of boards' handlers and of the samples that sensors hold.

`Shift` says it once for each operation, and leaves out what matters to neither: packets,
channels, clocks.  The receive loop is no case of its own, since it does what receives do
(`polls_induction`).
-/
import WrenchLink.Proofs.Session.Run

namespace WrenchLink

namespace Sensor

variable {η : Type}

theorem exists_conclude (x : Sensor) (request : Request) :
    ∃ settling, (x.conclude request).2 = { x with settling } ∧
      (x.settling = true → settling = true) := by
  rw [conclude, settle]
  split
  · split
    · exact ⟨_, rfl, id⟩
    · exact ⟨_, rfl, fun _ => rfl⟩
  · exact ⟨_, rfl, id⟩

/-- A request changes a sensor's packet and nothing else of it, but for letting its board
settle. -/
theorem exists_sensor_perform (net : Network) (x : Sensor) (m : Manager η) (request : Request) :
    ∃ scratch settling, (x.perform net m request).sensor = { x with scratch, settling } ∧
      (x.settling = true → settling = true) := by
  cases hawaited : request.awaited with
  | some awaited =>
    simp only [perform, hawaited, transact, command_eq]
    split <;> exact ⟨_, _, rfl, id⟩
  | none =>
    simp only [perform, hawaited, command_eq]
    split
    · exact ⟨_, _, rfl, id⟩
    · obtain ⟨settling, hconclude, hkept⟩ :=
        exists_conclude { x with scratch := x.requestPacket request.message } request
      exact ⟨_, settling, hconclude, hkept⟩

theorem observe_eq (x : Sensor) (bytes : Bytes) :
    x.observe bytes = { x with sample := (Sample.ofDatagram? bytes).getD x.sample } := by
  rw [observe]
  cases Sample.ofDatagram? bytes <;> rfl

theorem exists_settled (x : Sensor) : ∃ settling, x.settled.2 = { x with settling } := by
  rw [settled]
  split <;> exact ⟨_, rfl⟩

end Sensor

namespace Session

variable {τ : Type} {s s' : Session τ}

def audience? (s : Session τ) (i : Nat) : Option (Address × Registry (Callback τ)) :=
  s.manager.boards[i]?.map Board.audience

theorem audience?_of_board {i : Nat} {b : Board (Callback τ)}
    (hb : s.manager.boards[i]? = some b) : s.audience? i = some (b.address, b.registry) := by
  rw [audience?, hb]
  rfl

/-- The audiences with one board's handlers changed. -/
def audienceWith (s : Session τ) (board : Nat)
    (f : Registry (Callback τ) → Registry (Callback τ)) (i : Nat) :
    Option (Address × Registry (Callback τ)) :=
  if i = board then (s.audience? i).map fun (address, r) => (address, f r) else s.audience? i

/-- The board of a sensor, its token there, and its sample. -/
def holding? (s : Session τ) (index : Nat) : Option (Nat × Nat × Sample) :=
  (s.sensor? index).map fun x => (x.board, x.token, x.sample)

def keep (j : Nat) (sample : Sample) : Event (Callback τ) → Sample
  | .datagram (.sensor index) bytes =>
    if index = j then (Sample.ofDatagram? bytes).getD sample else sample
  | .datagram (.observer _) _ | .silent _ _ => sample

/-- What a step changes of boards' handlers and of sensors. -/
inductive Shift (s s' : Session τ) : Operation τ → Prop where
  | still {operation : Operation τ} (haudience : ∀ i, s'.audience? i = s.audience? i)
    (hholding : ∀ j, s'.holding? j = s.holding? j) : Shift s s' operation
  | boardAdded {spec : BoardSpec} (hfresh : s.audience? s.manager.boards.length = none)
    (haudience : ∀ i, s'.audience? i =
      if i = s.manager.boards.length then some (spec.address, {}) else s.audience? i)
    (hholding : ∀ j, s'.holding? j = s.holding? j) : Shift s s' (.addBoard spec)
  | installed {board : Nat} {tag : τ}
    (haudience : ∀ i, s'.audience? i = s.audienceWith board (·.install (.observer tag) |>.2) i)
    (hholding : ∀ j, s'.holding? j = s.holding? j) : Shift s s' (.install board tag)
  | removed {board token : Nat}
    (haudience : ∀ i, s'.audience? i = s.audienceWith board (·.remove token |>.2) i)
    (hholding : ∀ j, s'.holding? j = s.holding? j) : Shift s s' (.remove board token)
  | attached {board : Nat} {address : Address} {r : Registry (Callback τ)}
    (hfresh : s.holding? s.sensors.length = none) (hboard : s.audience? board = some (address, r))
    (haudience : ∀ i, s'.audience? i =
      s.audienceWith board (·.install (.sensor s.sensors.length) |>.2) i)
    (hholding : ∀ j, s'.holding? j =
      if j = s.sensors.length then some (board, r.next, Sample.zero) else s.holding? j) :
    Shift s s' (.attachSensor board)
  | dropped {index board token : Nat} {sample : Sample}
    (hsensor : s.holding? index = some (board, token, sample))
    (haudience : ∀ i, s'.audience? i = s.audienceWith board (·.remove token |>.2) i)
    (hholding : ∀ j, s'.holding? j = if j = index then none else s.holding? j) :
    Shift s s' (.dropSensor index)
  | received {d : Datagram} {rest : List Datagram} (hqueued : s.manager.queued = d :: rest)
    (haudience : ∀ i, s'.audience? i = s.audience? i)
    (hholding : ∀ j, s'.holding? j = (s.holding? j).map fun (board, token, sample) =>
      (board, token, (s.manager.reactions d).foldl (keep j) sample)) :
    Shift s s' .receive

theorem audience?_of_alike (h : s.manager.Alike s'.manager) (i : Nat) :
    s'.audience? i = s.audience? i := by
  rw [audience?, audience?, ← List.getElem?_map, h.boards, List.getElem?_map]

theorem audience?_setBoard {board : Nat} {b c : Board (Callback τ)}
    {f : Registry (Callback τ) → Registry (Callback τ)}
    (hb : s.manager.boards[board]? = some b) (hc : c.audience = (b.address, f b.registry))
    (hs : s'.manager = s.manager.setBoard board c) (i : Nat) :
    s'.audience? i = s.audienceWith board f i := by
  obtain ⟨hlt, -⟩ := List.getElem?_eq_some_iff.mp hb
  rw [audience?, audienceWith, hs]
  show ((s.manager.boards.set board c)[i]?).map Board.audience = _
  by_cases hi : i = board
  · subst hi
    rw [if_pos rfl, List.getElem?_set_self hlt, audience?, hb, Option.map_some, hc]
    rfl
  · rw [if_neg hi, List.getElem?_set_ne (Ne.symm hi), audience?]

theorem holding?_congr (h : s'.sensors = s.sensors) (j : Nat) : s'.holding? j = s.holding? j := by
  rw [holding?, holding?, sensor?, sensor?, h]

theorem sensor?_setSensor {index : Nat} {x : Sensor} (h : s.sensor? index = some x) (y : Sensor)
    (j : Nat) : (s.setSensor index y).sensor? j = if j = index then some y else s.sensor? j := by
  obtain ⟨hlt, -⟩ := List.getElem?_eq_some_iff.mp (Option.join_eq_some_iff.mp h)
  show ((s.sensors.set index (some y))[j]?).join = _
  by_cases hj : j = index
  · subst hj
    rw [if_pos rfl, List.getElem?_set_self hlt, Option.join_some]
  · rw [if_neg hj, List.getElem?_set_ne (Ne.symm hj), sensor?]

theorem holding?_setSensor {index : Nat} {x y : Sensor} (h : s.sensor? index = some x)
    (hboard : y.board = x.board) (htoken : y.token = x.token) (hsample : y.sample = x.sample)
    (j : Nat) : (s.setSensor index y).holding? j = s.holding? j := by
  rw [holding?, sensor?_setSensor h]
  by_cases hj : j = index
  · rw [if_pos hj, holding?, hj, h, Option.map_some, Option.map_some, hboard, htoken, hsample]
  · rw [if_neg hj, holding?]

theorem holding?_of_quiet (net : Network) (s : Session τ) {operation : Operation τ}
    (hquiet : operation.isQuiet = true) (j : Nat) :
    (s.step net operation).session.holding? j = s.holding? j := by
  cases operation with
  | bind | handlerCount | startReceiving | sendTcp | receiveTcp | sendUdp | connectAll
  | withTimeout | withTcpReadTimeout => rfl
  | boardWrites board bytes | boardHangsUp board =>
    rw [step, withStream]
    cases s.manager.boards[board]? <;> rfl
  | configureSensor index settleTime limits =>
    rw [step]
    cases hsensor : s.sensor? index with
    | none => rfl
    | some x => exact holding?_setSensor (y := { x with settleTime, limits }) hsensor rfl rfl rfl j
  | settles index =>
    rw [step]
    cases hsensor : s.sensor? index with
    | none => rfl
    | some x =>
      obtain ⟨settling, hsettled⟩ := x.exists_settled
      show (s.setSensor index x.settled.2).holding? j = _
      rw [hsettled]
      exact holding?_setSensor (y := { x with settling }) hsensor rfl rfl rfl j
  | request index request =>
    rw [step]
    cases hsensor : s.sensor? index with
    | none => rfl
    | some x =>
      obtain ⟨scratch, settling, hperform, -⟩ := x.exists_sensor_perform net s.manager request
      let s' : Session τ := { s with manager := (x.perform net s.manager request).manager }
      have hkept : s'.sensor? index = some x := hsensor
      show (s'.setSensor index (x.perform net s.manager request).sensor).holding? j = _
      rw [hperform]
      exact holding?_setSensor (y := { x with scratch, settling }) hkept rfl rfl rfl j
  | _ => cases hquiet

theorem audienceWith_of_none {board : Nat} (hb : s.manager.boards[board]? = none)
    (f : Registry (Callback τ) → Registry (Callback τ)) (i : Nat) :
    s.audienceWith board f i = s.audience? i := by
  rw [audienceWith]
  split
  · rename_i hi
    rw [hi, audience?, hb]
    rfl
  · rfl

theorem audience?_install {board : Nat} {handler : Callback τ}
    (hs : s'.manager = (s.manager.install board handler).2) (i : Nat) :
    s'.audience? i = s.audienceWith board (·.install handler |>.2) i := by
  cases hb : s.manager.boards[board]? with
  | none =>
    rw [Manager.install_of_none hb] at hs
    rw [audienceWith_of_none hb, audience?, hs, audience?]
  | some b =>
    rw [Manager.install_of_board hb] at hs
    exact audience?_setBoard hb rfl hs i

theorem audience?_remove {board token : Nat}
    (hs : s'.manager = (s.manager.remove board token).2) (i : Nat) :
    s'.audience? i = s.audienceWith board (·.remove token |>.2) i := by
  cases hb : s.manager.boards[board]? with
  | none =>
    rw [Manager.remove_of_none hb] at hs
    rw [audienceWith_of_none hb, audience?, hs, audience?]
  | some b =>
    rw [Manager.remove_of_board hb] at hs
    exact audience?_setBoard hb rfl hs i

theorem shift_addBoard (net : Network) (s : Session τ) (spec : BoardSpec) :
    Shift s (s.step net (.addBoard spec)).session (.addBoard spec) := by
  show Shift s { s with manager := (s.manager.addBoard spec).2 } _
  rw [Manager.addBoard]
  split
  · exact .still (fun _ => rfl) fun _ => rfl
  · have hfresh : s.audience? s.manager.boards.length = none := by
      rw [audience?, List.getElem?_eq_none (Nat.le_refl _), Option.map_none]
    refine .boardAdded hfresh (fun i => ?_) fun _ => rfl
    show ((s.manager.boards ++ [_])[i]?).map Board.audience = _
    rw [getElem?_concat_eq_ite, audience?]
    split <;> rfl

theorem attached_of_install {board token : Nat} {m : Manager (Callback τ)}
    (hinstall : s.manager.install board (.sensor s.sensors.length) = (.ok token, m)) :
    let sensor : Sensor := { board := board, token := token }
    let attached : Session τ := ⟨m, s.sensors ++ [some sensor], s.inbox⟩
    ∃ address r, s.audience? board = some (address, r) ∧ token = r.next ∧
      (∀ i, attached.audience? i =
        s.audienceWith board (·.install (.sensor s.sensors.length) |>.2) i) ∧
      ∀ j, attached.holding? j =
        if j = s.sensors.length then some (board, token, Sample.zero) else s.holding? j := by
  intro sensor attached
  have hmanager : attached.manager =
      (s.manager.install board (.sensor s.sensors.length)).2 := by rw [hinstall]
  have haudience := audience?_install hmanager
  have hholding : ∀ j, attached.holding? j =
      if j = s.sensors.length then some (board, token, Sample.zero) else s.holding? j := by
    intro j
    show (((s.sensors ++ [_])[j]?).join).map _ = _
    rw [getElem?_concat_eq_ite, holding?, sensor?]
    split <;> rfl
  cases hb : s.manager.boards[board]? with
  | none =>
    rw [Manager.install_of_none hb] at hinstall
    cases hinstall
  | some b =>
    rw [Manager.install_of_board hb] at hinstall
    cases hinstall
    exact ⟨b.address, b.registry, audience?_of_board hb, rfl, haudience, hholding⟩

theorem shift_attachSensor (net : Network) (s : Session τ) (board : Nat) :
    Shift s (s.step net (.attachSensor board)).session (.attachSensor board) := by
  rw [step, attachSensor]
  rcases hinstall : s.manager.install board (.sensor s.sensors.length) with ⟨fault | token, m⟩
  · have hb : s.manager.boards[board]? = none := by
      rw [Option.eq_none_iff_forall_ne_some]
      intro b hb
      rw [Manager.install_of_board hb] at hinstall
      cases hinstall
    rw [Manager.install_of_none hb] at hinstall
    cases hinstall
    exact .still (fun _ => rfl) fun _ => rfl
  · obtain ⟨address, r, hboard, htoken, haudience, hholding⟩ := attached_of_install hinstall
    have hfresh : s.holding? s.sensors.length = none := by
      rw [holding?, sensor?, List.getElem?_eq_none (Nat.le_refl _)]
      rfl
    refine .attached hfresh hboard haudience ?_
    rw [← htoken]
    exact hholding

theorem shift_dropSensor (net : Network) (s : Session τ) (index : Nat) :
    Shift s (s.step net (.dropSensor index)).session (.dropSensor index) := by
  show Shift s (s.dropSensor index) _
  rw [dropSensor]
  cases hsensor : s.sensor? index with
  | none => exact .still (fun _ => rfl) fun _ => rfl
  | some x =>
    have hholding : s.holding? index = some (x.board, x.token, x.sample) := by
      rw [holding?, hsensor, Option.map_some]
    refine .dropped hholding (audience?_remove rfl) fun j => ?_
    obtain ⟨hlt, -⟩ := List.getElem?_eq_some_iff.mp (Option.join_eq_some_iff.mp hsensor)
    rw [holding?, sensor?]
    by_cases hj : j = index
    · subst hj
      rw [if_pos rfl, List.getElem?_set_self hlt]
      rfl
    · rw [if_neg hj, List.getElem?_set_ne (Ne.symm hj), holding?, sensor?]

theorem sensor?_hear (m : Manager (Callback τ)) (packet : Packet) (e : Event (Callback τ))
    (j : Nat) :
    sensor? ⟨m, hear s.sensors e, packet⟩ j =
      (s.sensor? j).map fun x => { x with sample := keep j x.sample e } := by
  match e with
  | .silent _ _ | .datagram (.observer _) _ => exact (Option.map_id' (x := s.sensor? j)).symm
  | .datagram (.sensor index) bytes =>
    show ((s.sensors.modify index _)[j]?).join = _
    rw [sensor?]
    by_cases hindex : index = j
    · subst hindex
      rw [List.getElem?_modify_eq]
      rcases s.sensors[index]? with _ | _ | x
      · rfl
      · rfl
      · show some (x.observe bytes) = some { x with sample := if index = index then _ else _ }
        rw [if_pos rfl, x.observe_eq]
    · rw [List.getElem?_modify_ne _ _ hindex]
      rcases s.sensors[j]? with _ | _ | x
      · rfl
      · rfl
      · show some x = some { x with sample := if index = j then _ else x.sample }
        rw [if_neg hindex]

theorem sensor?_foldl_hear (m : Manager (Callback τ)) (packet : Packet)
    (events : List (Event (Callback τ))) (j : Nat) :
    sensor? ⟨m, events.foldl hear s.sensors, packet⟩ j =
      (s.sensor? j).map fun x => { x with sample := events.foldl (keep j) x.sample } := by
  induction events generalizing s with
  | nil => exact (Option.map_id' (x := s.sensor? j)).symm
  | cons e rest ih =>
    have hrest := ih (s := ⟨m, hear s.sensors e, packet⟩)
    rw [List.foldl_cons]
    refine hrest.trans ?_
    rw [sensor?_hear, Option.map_map]
    rfl

/-- A receive that takes a datagram changes samples only. -/
theorem holding?_receive_of_queued (net : Network) {d : Datagram} {rest : List Datagram}
    (hqueued : s.manager.queued = d :: rest) (j : Nat) :
    (s.step net .receive).session.holding? j =
      (s.holding? j).map fun (board, token, sample) =>
        (board, token, (s.manager.reactions d).foldl (keep j) sample) := by
  rw [step_receive, Manager.receive_of_queued hqueued, holding?, sensor?_foldl_hear, Option.map_map,
    holding?, Option.map_map]
  rfl

theorem holding?_receive_of_queued_nil (net : Network) (hqueued : s.manager.queued = [])
    (j : Nat) : (s.step net .receive).session.holding? j = s.holding? j := by
  rw [step_receive, Manager.receive_of_queued_nil hqueued]
  cases s.manager.isBound with
  | false => rfl
  | true =>
    refine holding?_congr ?_ j
    show (s.manager.notify noTrafficBoard).foldl hear s.sensors = s.sensors
    rw [Manager.notify]
    cases s.manager.timeoutHandler <;> rfl

theorem audience?_receive (net : Network) (s : Session τ) (i : Nat) :
    (s.step net .receive).session.audience? i = s.audience? i := by
  rw [step_receive]
  cases hqueued : s.manager.queued with
  | cons d rest =>
    rw [Manager.receive_of_queued hqueued]
    rfl
  | nil =>
    rw [Manager.receive_of_queued_nil hqueued]
    cases s.manager.isBound <;> rfl

theorem shift_receive (net : Network) (s : Session τ) :
    Shift s (s.step net .receive).session .receive := by
  cases hqueued : s.manager.queued with
  | cons d rest =>
    exact .received hqueued (audience?_receive net s) (holding?_receive_of_queued net hqueued)
  | nil => exact .still (audience?_receive net s) (holding?_receive_of_queued_nil net hqueued)

/-- The loop is left to `polls_induction`. -/
theorem shift_step (net : Network) (s : Session τ) {operation : Operation τ}
    (hpolls : operation.polls = false) : Shift s (s.step net operation).session operation := by
  cases operation with
  | addBoard spec => exact shift_addBoard net s spec
  | install board tag => exact .installed (audience?_install rfl) fun _ => rfl
  | remove board token => exact .removed (audience?_remove rfl) fun _ => rfl
  | attachSensor board => exact shift_attachSensor net s board
  | dropSensor index => exact shift_dropSensor net s index
  | receive => exact shift_receive net s
  | loopCatchesUp | stopReceiving => cases hpolls
  | installTimeoutHandler tag | datagramArrives d | timePasses =>
    exact .still (fun _ => rfl) fun _ => rfl
  | _ => exact .still (audience?_of_alike (alike_of_quiet net s rfl)) (holding?_of_quiet net s rfl)

end Session
end WrenchLink

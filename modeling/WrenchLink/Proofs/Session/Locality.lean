/-
What an operation on a board looks at, and what it changes.

An operation is addressed to the board that it names, or that the sensor is on which it names.
It sees that board, that sensor and, if it attaches one, how many sensors there were before;
boards that share an address are no exception.  So what it does is one `Effect`, the same in
every session that agrees on these (`Agrees`): `exists_effect`.
-/
import WrenchLink.Proofs.Session.BoardTable

namespace WrenchLink

variable {η τ : Type}

namespace Manager

/-- The manager with another board at a number, if there is another. -/
def put (m : Manager η) (i : Nat) (c : Option (Board η)) : Manager η := c.elim m (m.setBoard i)

variable {m : Manager η} {i j : Nat} {c d : Option (Board η)}

theorem getElem?_put (m : Manager η) (i : Nat) (c : Option (Board η)) :
    (m.put i c).boards[i]? = m.boards[i]?.map c.getD := by
  cases c with
  | none => exact Option.map_id'.symm
  | some c =>
    show (m.boards.set i c)[i]? = _
    rw [List.getElem?_set_self']
    rfl

theorem getElem?_put_of_ne (h : i ≠ j) : (m.put i c).boards[j]? = m.boards[j]? := by
  cases c with
  | none => rfl
  | some c => exact List.getElem?_set_ne h

theorem put_put : (m.put i c).put i d = m.put i (d.or c) := by
  cases d with
  | none => rfl
  | some d =>
    cases c with
    | none => rfl
    | some c => exact m.setBoard_setBoard i c d

theorem put_comm (h : i ≠ j) : (m.put i c).put j d = (m.put j d).put i c := by
  cases c with
  | none => rfl
  | some c =>
    cases d with
    | none => rfl
    | some d =>
      show { m with boards := (m.boards.set i c).set j d } = _
      rw [List.set_comm c d h]
      rfl

/-- An operation on a board sees that board only. -/
theorem withBoard_local {α : Type} (i : Nat) (b : Option (Board η)) (refusal : Fault → α)
    (operation : Board η → α × Board η) :
    ∃ (r : α) (c : Option (Board η)), ∀ m : Manager η, m.boards[i]? = b →
      m.withBoard i refusal operation = (r, m.put i c) := by
  cases b with
  | none => exact ⟨refusal (.invalidBoardId i), none, fun m hb => withBoard_of_none hb⟩
  | some b => exact ⟨(operation b).1, some (operation b).2, fun m hb => withBoard_of_board hb⟩

/-- Counting handlers is an operation on the board, which it leaves alone. -/
theorem handlerCount_eq_withBoard (m : Manager η) (i : Nat) :
    (m.handlerCount i, m) = m.withBoard i .error fun b => (.ok b.registry.count, b) := by
  rw [handlerCount, board]
  cases hb : m.boards[i]? with
  | none => rw [withBoard_of_none hb]; rfl
  | some b => rw [withBoard_of_board hb, setBoard_self hb]; rfl

end Manager

namespace Sensor

/-- A request sees its sensor's board only. -/
theorem command_local (net : Network) (x : Sensor) (b : Option (Board η)) (message : Message) :
    ∃ (r : Except Fault Unit) (c : Option (Board η)), ∀ m : Manager η, m.boards[x.board]? = b →
      x.command net m message =
        ⟨r, { x with scratch := x.requestPacket message }, m.put x.board c⟩ := by
  obtain ⟨r, c, hsend⟩ := Manager.withBoard_local x.board b .error
    (·.sendTcp net (x.requestPacket message))
  refine ⟨r.map fun _ => (), c, fun m hb => ?_⟩
  rw [command_eq, Manager.sendTcp, hsend m hb]

theorem transact_local (net : Network) (x : Sensor) (b : Option (Board η)) (message : Message)
    (awaited : Awaited) :
    ∃ (r : Except Fault (Option Answer)) (y : Sensor) (c : Option (Board η)), ∀ m : Manager η,
      m.boards[x.board]? = b → x.transact net m message awaited = ⟨r, y, m.put x.board c⟩ := by
  obtain ⟨sent, c, hcommand⟩ := x.command_local net b message
  cases sent with
  | error fault =>
    refine ⟨.error fault, { x with scratch := x.requestPacket message }, c, fun m hb => ?_⟩
    rw [transact, hcommand m hb]
  | ok _ =>
    obtain ⟨receipt, d, hreceive⟩ := Manager.withBoard_local x.board (b.map c.getD)
      (⟨.error ·, x.requestPacket message⟩) (·.receiveTcp (x.requestPacket message))
    have hreceived : ∀ m : Manager η, m.boards[x.board]? = b →
        (m.put x.board c).receiveTcp x.board (x.requestPacket message) =
          (receipt, m.put x.board (d.or c)) := by
      intro m hb
      rw [Manager.receiveTcp, hreceive _ (by rw [Manager.getElem?_put, hb]), Manager.put_put]
    refine ⟨readReceipt awaited receipt, { x with scratch := receipt.packet }, d.or c,
      fun m hb => ?_⟩
    rw [transact, hcommand m hb]
    simp only [hreceived m hb]

theorem perform_local (net : Network) (x : Sensor) (b : Option (Board η)) (request : Request) :
    ∃ (r : Except Fault (Option Answer)) (y : Sensor) (c : Option (Board η)), ∀ m : Manager η,
      m.boards[x.board]? = b → x.perform net m request = ⟨r, y, m.put x.board c⟩ := by
  cases hawaited : request.awaited with
  | some awaited =>
    obtain ⟨r, y, c, htransact⟩ := x.transact_local net b request.message awaited
    refine ⟨r, y, c, fun m hb => ?_⟩
    simp only [perform, hawaited, htransact m hb]
  | none =>
    obtain ⟨sent, c, hcommand⟩ := x.command_local net b request.message
    let commanded : Sensor := { x with scratch := x.requestPacket request.message }
    cases sent with
    | error fault =>
      refine ⟨.error fault, commanded, c, fun m hb => ?_⟩
      simp only [perform, hawaited, hcommand m hb, commanded]
    | ok _ =>
      refine ⟨(commanded.conclude request).1, (commanded.conclude request).2, c, fun m hb => ?_⟩
      simp only [perform, hawaited, hcommand m hb, commanded]

end Sensor

/-! ## Effects -/

/-- What becomes of the sensors. -/
inductive SensorChange where
  | none
  | added (x : Sensor)
  | replaced (index : Nat) (x : Option Sensor)

def SensorChange.apply : SensorChange → List (Option Sensor) → List (Option Sensor)
  | .none, sensors => sensors
  | .added x, sensors => sensors ++ [some x]
  | .replaced index x, sensors => sensors.set index x

/-- The outcome of an operation on a board, with what becomes of the board and the sensors. -/
structure Effect (τ : Type) where
  outcome : Except Fault Reply
  board : Option (Board (Callback τ)) := none
  sensors : SensorChange := .none

def Effect.on (e : Effect τ) (i : Nat) (s : Session τ) : Stepped τ :=
  ⟨e.outcome, [],
    { s with manager := s.manager.put i e.board, sensors := e.sensors.apply s.sensors }⟩

/-- The sensor that an operation on a board names instead of the board. -/
def Operation.sensor? : Operation τ → Option Nat
  | .dropSensor index | .request index _ | .settles index => some index
  | _ => none

/-- The operation is one that may do this to the sensors. -/
structure Effect.Fits (e : Effect τ) (operation : Operation τ) (i : Nat) : Prop where
  added : ∀ x, e.sensors = .added x → operation = .attachSensor i
  replaced : ∀ index x, e.sensors = .replaced index x → operation.sensor? = some index

namespace Session

variable {s t : Session τ} {operation : Operation τ} {i : Nat} {net : Network}

/-- The board that an operation is for. -/
def addressee? (s : Session τ) (operation : Operation τ) : Option Nat :=
  operation.board?.or ((operation.sensor?.bind s.sensor?).map (·.board))

/-- The sessions show the same to an operation on that board. -/
structure Agrees (s t : Session τ) (operation : Operation τ) (i : Nat) : Prop where
  board : t.manager.boards[i]? = s.manager.boards[i]?
  sensor : ∀ index, operation.sensor? = some index → t.sensor? index = s.sensor? index
  count : operation = .attachSensor i → t.sensors.length = s.sensors.length

theorem Agrees.refl (s : Session τ) (operation : Operation τ) (i : Nat) :
    s.Agrees s operation i :=
  ⟨rfl, fun _ _ => rfl, fun _ => rfl⟩

theorem fits_of_none {e : Effect τ} (h : e.sensors = .none) : e.Fits operation i where
  added := by
    intro x hx
    cases h.symm.trans hx
  replaced := by
    intro index x hx
    cases h.symm.trans hx

theorem fits_of_added {e : Effect τ} {x : Sensor} (h : e.sensors = .added x) :
    e.Fits (.attachSensor i) i where
  added := fun _ _ => rfl
  replaced := by
    intro index y hy
    cases h.symm.trans hy

theorem fits_of_replaced {e : Effect τ} {index : Nat} {x : Option Sensor}
    (h : e.sensors = .replaced index x) (hindex : operation.sensor? = some index) :
    e.Fits operation i where
  added := by
    intro y hy
    cases h.symm.trans hy
  replaced := by
    intro k y hy
    cases h.symm.trans hy
    exact hindex

theorem exists_effect_of_withBoard {α : Type} (s : Session τ) (outcome : α → Except Fault Reply)
    {refusal : Fault → α} {f : Board (Callback τ) → α × Board (Callback τ)}
    (hstep : ∀ t : Session τ, t.step net operation =
      let r := t.manager.withBoard i refusal f
      ⟨outcome r.1, [], { t with manager := r.2 }⟩) :
    ∃ e : Effect τ, e.Fits operation i ∧
      ∀ t : Session τ, s.Agrees t operation i → t.step net operation = e.on i t := by
  obtain ⟨r, c, hlocal⟩ := Manager.withBoard_local i s.manager.boards[i]? refusal f
  refine ⟨⟨outcome r, c, .none⟩, fits_of_none rfl, fun t ht => ?_⟩
  rw [hstep, hlocal _ ht.board]
  rfl

theorem exists_effect_attachSensor (net : Network) (s : Session τ) (i : Nat) :
    ∃ e : Effect τ, e.Fits (.attachSensor i) i ∧
      ∀ t : Session τ, s.Agrees t (.attachSensor i) i →
        t.step net (.attachSensor i) = e.on i t := by
  obtain ⟨r, c, hlocal⟩ := Manager.withBoard_local i s.manager.boards[i]? Except.error
    fun b => (Except.ok (b.install (.sensor s.sensors.length)).1,
      (b.install (.sensor s.sensors.length)).2)
  have hinstall : ∀ t : Session τ, s.Agrees t (.attachSensor i) i →
      t.manager.install i (.sensor t.sensors.length) = (r, t.manager.put i c) := by
    intro t ht
    rw [ht.count rfl]
    exact hlocal _ ht.board
  cases r with
  | error fault =>
    refine ⟨⟨.error fault, c, .none⟩, fits_of_none rfl, fun t ht => ?_⟩
    simp only [step, attachSensor, hinstall t ht]
    rfl
  | ok token =>
    refine ⟨⟨.ok (.number s.sensors.length), c, .added { board := i, token }⟩, fits_of_added rfl,
      fun t ht => ?_⟩
    simp only [step, attachSensor, hinstall t ht]
    rw [ht.count rfl]
    rfl

section Named

variable {index : Nat} {x : Sensor}

theorem exists_effect_dropSensor (net : Network) (hx : s.sensor? index = some x) :
    ∃ e : Effect τ, e.Fits (.dropSensor index) x.board ∧
      ∀ t : Session τ, s.Agrees t (.dropSensor index) x.board →
        t.step net (.dropSensor index) = e.on x.board t := by
  obtain ⟨r, c, hlocal⟩ := Manager.withBoard_local x.board s.manager.boards[x.board]?
    Except.error fun b => (Except.ok (b.remove x.token).1, (b.remove x.token).2)
  refine ⟨⟨.ok .done, c, .replaced index none⟩, fits_of_replaced rfl rfl, fun t ht => ?_⟩
  have hsensor : t.sensor? index = some x := (ht.sensor index rfl).trans hx
  have hremove : t.manager.remove x.board x.token = (r, t.manager.put x.board c) :=
    hlocal _ ht.board
  simp only [step, dropSensor, hsensor, hremove]
  rfl

theorem exists_effect_request (net : Network) (hx : s.sensor? index = some x)
    (request : Request) :
    ∃ e : Effect τ, e.Fits (.request index request) x.board ∧
      ∀ t : Session τ, s.Agrees t (.request index request) x.board →
        t.step net (.request index request) = e.on x.board t := by
  obtain ⟨r, y, c, hlocal⟩ := x.perform_local net s.manager.boards[x.board]? request
  refine ⟨⟨r.map (Option.elim · .waiting .answer), c, .replaced index (some y)⟩,
    fits_of_replaced rfl rfl, fun t ht => ?_⟩
  have hsensor : t.sensor? index = some x := (ht.sensor index rfl).trans hx
  simp only [step, hsensor, hlocal _ ht.board]
  rfl

theorem exists_effect_settles (net : Network) (hx : s.sensor? index = some x) :
    ∃ e : Effect τ, e.Fits (.settles index) x.board ∧
      ∀ t : Session τ, s.Agrees t (.settles index) x.board →
        t.step net (.settles index) = e.on x.board t := by
  refine ⟨⟨x.settled.1.elim (.ok .done) (·.map .answer), none, .replaced index (some x.settled.2)⟩,
    fits_of_replaced rfl rfl, fun t ht => ?_⟩
  have hsensor : t.sensor? index = some x := (ht.sensor index rfl).trans hx
  simp only [step, hsensor]
  rfl

end Named

/-- An operation on a board has one effect, whatever else there is in the session. -/
theorem exists_effect (net : Network) (s : Session τ) {operation : Operation τ} {i : Nat}
    (h : s.addressee? operation = some i) :
    ∃ e : Effect τ, e.Fits operation i ∧
      ∀ t : Session τ, s.Agrees t operation i → t.step net operation = e.on i t := by
  have hnamed : ∀ index, operation.board? = none → operation.sensor? = some index →
      ∃ x, s.sensor? index = some x ∧ x.board = i := by
    intro index hboard hsensor
    rw [addressee?, hboard, hsensor, Option.none_or, Option.bind_some] at h
    exact Option.map_eq_some_iff.mp h
  cases operation with
  | install | sendTcp | sendUdp =>
    cases h
    exact s.exists_effect_of_withBoard (Except.map .number) fun _ => rfl
  | remove =>
    cases h
    exact s.exists_effect_of_withBoard (Except.map .flag) fun _ => rfl
  | receiveTcp =>
    cases h
    let outcome : Receipt → Except Fault Reply := fun r =>
      r.received.map (Option.elim · .waiting fun _ => .packet r.packet)
    exact s.exists_effect_of_withBoard outcome fun _ => rfl
  | handlerCount =>
    cases h
    have hstep : ∀ t : Session τ, t.step net (.handlerCount i) =
        let r := t.manager.withBoard i Except.error fun b => (Except.ok b.registry.count, b)
        ⟨r.1.map .number, [], { t with manager := r.2 }⟩ := by
      intro t
      rw [← Manager.handlerCount_eq_withBoard]
      rfl
    exact s.exists_effect_of_withBoard (Except.map .number) hstep
  | attachSensor =>
    cases h
    exact s.exists_effect_attachSensor net i
  | dropSensor index =>
    obtain ⟨x, hx, rfl⟩ := hnamed index rfl rfl
    exact exists_effect_dropSensor net hx
  | request index request =>
    obtain ⟨x, hx, rfl⟩ := hnamed index rfl rfl
    exact exists_effect_request net hx request
  | settles index =>
    obtain ⟨x, hx, rfl⟩ := hnamed index rfl rfl
    exact exists_effect_settles net hx
  | _ => cases h

end Session
end WrenchLink

/-
Operations on different boards do not meet.

The effects of two operations on different boards are on different places of the session, so they
can be had in either order: `Effect.on_comm`.  Only the numbers of sensors are shared.  Two
sensors that are attached in the other order have their numbers exchanged, and everything that
mentions a sensor with them: `Renumbered`.
-/
import Mathlib.Logic.Equiv.Basic
import WrenchLink.Proofs.Session.Attachment
import WrenchLink.Proofs.Session.Exchange
import WrenchLink.Proofs.Session.Locality
import WrenchLink.Proofs.Session.BoardTable

namespace WrenchLink

variable {τ : Type}

theorem SensorChange.apply_comm {c d : SensorChange} {sensors : List (Option Sensor)}
    (hadded : ∀ x y, c = .added x → d ≠ .added y)
    (hreplaced : ∀ k x l y, c = .replaced k x → d = .replaced l y → k ≠ l)
    (hc : ∀ k x, c = .replaced k x → k < sensors.length)
    (hd : ∀ k x, d = .replaced k x → k < sensors.length) :
    d.apply (c.apply sensors) = c.apply (d.apply sensors) := by
  cases c with
  | none => rfl
  | added x =>
    cases d with
    | none => rfl
    | added y => exact absurd rfl (hadded x y rfl)
    | replaced l y => exact List.set_append_left l y (hd l y rfl)
  | replaced k x =>
    cases d with
    | none => rfl
    | added y => exact (List.set_append_left k x (hc k x rfl)).symm
    | replaced l y => exact List.set_comm x y (hreplaced k x l y rfl rfl)

namespace Session

variable {s : Session τ} {a b : Operation τ} {i j : Nat} {e f : Effect τ}

theorem exists_sensor_of_addressee? (h : s.addressee? a = some i) {index : Nat}
    (hindex : a.sensor? = some index) : ∃ x, s.sensor? index = some x ∧ x.board = i := by
  have hboard : a.board? = none := by
    cases a with
    | dropSensor | request | settles => rfl
    | _ => cases hindex
  rw [addressee?, hboard, hindex, Option.none_or, Option.bind_some] at h
  exact Option.map_eq_some_iff.mp h

theorem lt_length_of_sensor? {index : Nat} {x : Sensor} (h : s.sensor? index = some x) :
    index < s.sensors.length := by
  obtain ⟨hlt, -⟩ := List.getElem?_eq_some_iff.mp (Option.join_eq_some_iff.mp h)
  exact hlt

/-- An effect on one board leaves the sensors of the others alone. -/
theorem sensor?_on (ha : s.addressee? a = some i) (he : e.Fits a i) {index : Nat} {x : Sensor}
    (hx : s.sensor? index = some x) (hne : x.board ≠ i) :
    (e.on i s).session.sensor? index = some x := by
  show ((e.sensors.apply s.sensors)[index]?).join = some x
  cases hsensors : e.sensors with
  | none => exact hx
  | added y =>
    show ((s.sensors ++ [some y])[index]?).join = some x
    rw [List.getElem?_append_left (lt_length_of_sensor? hx)]
    exact hx
  | replaced k y =>
    obtain ⟨z, hz, hboard⟩ := exists_sensor_of_addressee? ha (he.replaced k y hsensors)
    have hk : k ≠ index := by
      rintro rfl
      rw [hz] at hx
      exact hne ((Option.some.inj hx) ▸ hboard)
    show ((s.sensors.set k y)[index]?).join = some x
    rw [List.getElem?_set_ne hk]
    exact hx

/-- An effect on one board is not noticed on another, unless both attach a sensor. -/
theorem agrees_on (ha : s.addressee? a = some i) (hb : s.addressee? b = some j) (hij : i ≠ j)
    (hf : f.Fits b j) (hattach : a = .attachSensor i → b ≠ .attachSensor j) :
    s.Agrees (f.on j s).session a i where
  board := Manager.getElem?_put_of_ne hij.symm
  sensor := by
    intro index hindex
    obtain ⟨x, hx, rfl⟩ := exists_sensor_of_addressee? ha hindex
    rw [hx, sensor?_on hb hf hx hij]
  count := by
    intro hnew
    show (f.sensors.apply s.sensors).length = s.sensors.length
    cases hsensors : f.sensors with
    | none => rfl
    | added y => exact absurd (hf.added y hsensors) (hattach hnew)
    | replaced k y => exact List.length_set

theorem on_comm (ha : s.addressee? a = some i) (hb : s.addressee? b = some j) (hij : i ≠ j)
    (he : e.Fits a i) (hf : f.Fits b j) (hattach : a = .attachSensor i → b ≠ .attachSensor j) :
    (f.on j (e.on i s).session).session = (e.on i (f.on j s).session).session := by
  have hlt : ∀ {c : Operation τ} {k : Nat} {g : Effect τ}, s.addressee? c = some k →
      g.Fits c k → ∀ index x, g.sensors = .replaced index x → index < s.sensors.length := by
    intro c k g hc hg index x hsensors
    obtain ⟨y, hy, -⟩ := exists_sensor_of_addressee? hc (hg.replaced index x hsensors)
    exact lt_length_of_sensor? hy
  have hsensors : f.sensors.apply (e.sensors.apply s.sensors) =
      e.sensors.apply (f.sensors.apply s.sensors) := by
    refine SensorChange.apply_comm ?_ ?_ (hlt ha he) (hlt hb hf)
    · intro x y hx hy
      exact hattach (he.added x hx) (hf.added y hy)
    · rintro k x l y hx hy rfl
      obtain ⟨z, hz, rfl⟩ := exists_sensor_of_addressee? ha (he.replaced k x hx)
      obtain ⟨w, hw, rfl⟩ := exists_sensor_of_addressee? hb (hf.replaced k y hy)
      rw [hz] at hw
      exact hij (congrArg Sensor.board (Option.some.inj hw))
  show Session.mk _ (f.sensors.apply (e.sensors.apply s.sensors)) s.inbox = _
  rw [hsensors]
  exact congrArg (Session.mk · _ s.inbox) (Manager.put_comm hij)

theorem getElem?_boards_step (ha : s.addressee? a = some i) {k : Nat} (hk : k ≠ i)
    (net : Network) : (s.step net a).session.manager.boards[k]? = s.manager.boards[k]? := by
  obtain ⟨e, -, hstep⟩ := s.exists_effect net ha
  rw [hstep s (.refl s a i)]
  exact Manager.getElem?_put_of_ne hk.symm

theorem sensor?_step (ha : s.addressee? a = some i) {index : Nat} {x : Sensor}
    (hx : s.sensor? index = some x) (hne : x.board ≠ i) (net : Network) :
    (s.step net a).session.sensor? index = some x := by
  obtain ⟨e, he, hstep⟩ := s.exists_effect net ha
  rw [hstep s (.refl s a i)]
  exact sensor?_on ha he hx hne

/-- Operations on different boards can be done in either order, unless both attach a sensor. -/
theorem steps_commute (ha : s.addressee? a = some i) (hb : s.addressee? b = some j) (hij : i ≠ j)
    (hattach : a = .attachSensor i → b ≠ .attachSensor j) (net net' : Network) :
    ((s.step net' b).session.step net a).outcome = (s.step net a).outcome ∧
      ((s.step net a).session.step net' b).outcome = (s.step net' b).outcome ∧
      ((s.step net a).session.step net' b).session =
        ((s.step net' b).session.step net a).session := by
  obtain ⟨e, he, hstep⟩ := s.exists_effect net ha
  obtain ⟨f, hf, hstep'⟩ := s.exists_effect net' hb
  have hagrees := agrees_on ha hb hij hf hattach
  have hagrees' := agrees_on hb ha hij.symm he fun hnew hnew' => hattach hnew' hnew
  rw [hstep s (.refl s a i), hstep' s (.refl s b j), hstep _ hagrees, hstep' _ hagrees']
  exact ⟨rfl, rfl, on_comm ha hb hij he hf hattach⟩

end Session

/-! ## Other numbers for the sensors -/

def Callback.renumber (σ : Nat → Nat) : Callback τ → Callback τ
  | .observer tag => .observer tag
  | .sensor index => .sensor (σ index)

def Registry.renumber (σ : Nat → Nat) (r : Registry (Callback τ)) : Registry (Callback τ) :=
  { r with installed := r.installed.map fun (token, handler) => (token, handler.renumber σ) }

def Board.renumber (σ : Nat → Nat) (b : Board (Callback τ)) : Board (Callback τ) :=
  { b with registry := b.registry.renumber σ }

def Reply.renumber (σ : Nat → Nat) : Reply → Reply
  | .number n => .number (σ n)
  | reply => reply

section Renumber

variable {σ : Nat → Nat}

theorem Registry.renumber_of_fixed {r : Registry (Callback τ)}
    (h : ∀ token index, (token, .sensor index) ∈ r.installed → σ index = index) :
    r.renumber σ = r := by
  have hinstalled : r.installed.map (fun (token, handler) => (token, handler.renumber σ)) =
      r.installed := by
    refine (List.map_congr_left ?_).trans (List.map_id' r.installed)
    rintro ⟨token, handler⟩ hmem
    cases handler with
    | observer tag => rfl
    | sensor index => exact congrArg (token, Callback.sensor ·) (h token index hmem)
  rw [renumber, hinstalled]

theorem Board.renumber_of_fixed {b : Board (Callback τ)}
    (h : ∀ token index, (token, .sensor index) ∈ b.registry.installed → σ index = index) :
    b.renumber σ = b := by
  rw [renumber, Registry.renumber_of_fixed h]

theorem Board.renumber_install (b : Board (Callback τ)) (n : Nat) :
    (b.install (.sensor n)).2.renumber σ = ((b.renumber σ).install (.sensor (σ n))).2 := by
  simp only [renumber, install, Registry.renumber, Registry.install, List.map_append,
    List.map_singleton, Callback.renumber]

end Renumber

namespace Session

variable {s t : Session τ} {i j : Nat}

/-- The second session is the first with other numbers for its sensors. -/
structure Renumbered (σ : Equiv.Perm Nat) (s t : Session τ) : Prop where
  manager : t.manager = { s.manager with boards := s.manager.boards.map (Board.renumber σ) }
  sensors : ∀ index, t.sensors[σ index]? = s.sensors[index]?
  inbox : t.inbox = s.inbox

theorem step_attachSensor_of_board {b : Board (Callback τ)} (hb : s.manager.boards[i]? = some b)
    (net : Network) :
    s.step net (.attachSensor i) = ⟨.ok (.number s.sensors.length), [],
      ⟨s.manager.setBoard i (b.install (.sensor s.sensors.length)).2,
        s.sensors ++ [some { board := i, token := b.registry.next }], s.inbox⟩⟩ := by
  simp only [step, attachSensor, Manager.install_of_board hb]
  rfl

theorem step_attachSensor_of_no_board (hb : s.manager.boards[i]? = none) (net : Network) :
    s.step net (.attachSensor i) = ⟨.error (.invalidBoardId i), [], s⟩ := by
  simp only [step, attachSensor, Manager.install_of_none hb]
  rfl

theorem Renumbered.refl (s : Session τ) : s.Renumbered (Equiv.refl Nat) s where
  manager := by
    have hboards : s.manager.boards.map (Board.renumber (Equiv.refl Nat)) = s.manager.boards :=
      (List.map_congr_left fun _ _ => Board.renumber_of_fixed fun _ _ _ => rfl).trans
        (List.map_id _)
    rw [hboards]
  sensors := fun _ => rfl
  inbox := rfl

/-- No handler is for a sensor that is still to come. -/
theorem Attached.lt_length (hs : s.Attached) {b : Board (Callback τ)}
    (hb : s.manager.boards[i]? = some b) {token index : Nat}
    (h : (token, .sensor index) ∈ b.registry.installed) : index < s.sensors.length := by
  obtain ⟨sample, hsample⟩ := hs.owned i _ _ token index (audience?_of_board hb) h
  obtain ⟨x, hx, -⟩ := Option.map_eq_some_iff.mp hsample
  exact lt_length_of_sensor? hx

theorem Attached.renumber_eq (hs : s.Attached) {σ : Nat → Nat}
    (hσ : ∀ k < s.sensors.length, σ k = k) {b : Board (Callback τ)}
    (hb : s.manager.boards[i]? = some b) : b.renumber σ = b :=
  Board.renumber_of_fixed fun _ _ hmem => hσ _ (hs.lt_length hb hmem)

theorem map_renumber_refl (outcome : Except Fault Reply) :
    outcome.map (·.renumber (Equiv.refl Nat)) = outcome := by
  cases outcome with
  | error fault => rfl
  | ok reply => cases reply <;> rfl

theorem getElem?_concat_concat_swap {α : Type} (l : List α) (x y : α) (k : Nat) :
    (l ++ [y] ++ [x])[Equiv.swap l.length (l.length + 1) k]? = (l ++ [x] ++ [y])[k]? := by
  by_cases hlast : k = l.length
  · subst hlast
    rw [Equiv.swap_apply_left]
    simp
  · by_cases hnext : k = l.length + 1
    · subst hnext
      rw [Equiv.swap_apply_right]
      simp
    · rw [Equiv.swap_apply_of_ne_of_ne hlast hnext]
      simp only [getElem?_concat_eq_ite, List.length_append, List.length_singleton, hlast, hnext,
        if_false]

theorem attachSensor_of_boards {b c : Board (Callback τ)} (hb : s.manager.boards[i]? = some b)
    (hc : s.manager.boards[j]? = some c) (hij : i ≠ j) (net net' : Network) :
    (s.step net (.attachSensor i)).session.step net' (.attachSensor j) =
      ⟨.ok (.number (s.sensors.length + 1)), [],
        ⟨(s.manager.setBoard i (b.install (.sensor s.sensors.length)).2).setBoard j
            (c.install (.sensor (s.sensors.length + 1))).2,
          s.sensors ++ [some { board := i, token := b.registry.next }] ++
            [some { board := j, token := c.registry.next }], s.inbox⟩⟩ := by
  rw [step_attachSensor_of_board hb]
  have hc' : (s.manager.setBoard i (b.install (.sensor s.sensors.length)).2).boards[j]? = some c :=
    (List.getElem?_set_ne hij).trans hc
  rw [step_attachSensor_of_board hc', List.length_append, List.length_singleton]

/-- Sensors that are attached to two boards in either order are the same but for their numbers. -/
theorem attachSensor_swap (hs : s.Attached) (hij : i ≠ j) (net net' : Network) :
    let ij := (s.step net (.attachSensor i)).session.step net' (.attachSensor j)
    let ji := (s.step net' (.attachSensor j)).session.step net (.attachSensor i)
    ∃ σ : Equiv.Perm Nat, (∀ k < s.sensors.length, σ k = k) ∧
      ji.outcome = (s.step net (.attachSensor i)).outcome.map (·.renumber σ) ∧
      (s.step net' (.attachSensor j)).outcome = ij.outcome.map (·.renumber σ) ∧
      ij.session.Renumbered σ ji.session := by
  intro ij ji
  cases hb : s.manager.boards[i]? with
  | none =>
    have hgone : (s.step net' (.attachSensor j)).session.manager.boards[i]? = none :=
      (getElem?_boards_step rfl hij net').trans hb
    have hsji : ji = _ := step_attachSensor_of_no_board hgone net
    have hsij : ij = s.step net' (.attachSensor j) := by
      show (s.step net (.attachSensor i)).session.step net' (.attachSensor j) = _
      rw [step_attachSensor_of_no_board hb]
    rw [hsij, hsji, step_attachSensor_of_no_board hb]
    exact ⟨Equiv.refl Nat, fun _ _ => rfl, rfl, (map_renumber_refl _).symm, .refl _⟩
  | some b =>
    cases hc : s.manager.boards[j]? with
    | none =>
      have hgone : (s.step net (.attachSensor i)).session.manager.boards[j]? = none :=
        (getElem?_boards_step rfl hij.symm net).trans hc
      have hsij : ij = _ := step_attachSensor_of_no_board hgone net'
      have hsji : ji = s.step net (.attachSensor i) := by
        show (s.step net' (.attachSensor j)).session.step net (.attachSensor i) = _
        rw [step_attachSensor_of_no_board hc]
      rw [hsij, hsji, step_attachSensor_of_no_board hc]
      exact ⟨Equiv.refl Nat, fun _ _ => rfl, (map_renumber_refl _).symm, rfl, .refl _⟩
    | some c =>
      let n := s.sensors.length
      let σ := Equiv.swap n (n + 1)
      have hfixed : ∀ k < n, σ k = k := fun k hk =>
        Equiv.swap_apply_of_ne_of_ne (by omega) (by omega)
      have hkept : s.manager.boards.map (Board.renumber σ) = s.manager.boards := by
        refine (List.map_congr_left fun d hd => ?_).trans (List.map_id _)
        obtain ⟨k, hk⟩ := List.mem_iff_getElem?.mp hd
        exact hs.renumber_eq hfixed hk
      have hboards :
          (s.manager.boards.set j (c.install (.sensor n)).2).set i (b.install (.sensor (n + 1))).2 =
            ((s.manager.boards.set i (b.install (.sensor n)).2).set j
              (c.install (.sensor (n + 1))).2).map (Board.renumber σ) := by
        rw [List.map_set, List.map_set, hkept, Board.renumber_install, Board.renumber_install,
          hs.renumber_eq hfixed hb, hs.renumber_eq hfixed hc, Equiv.swap_apply_left,
          Equiv.swap_apply_right, List.set_comm _ _ hij]
      have hsij : ij = _ := attachSensor_of_boards hb hc hij net net'
      have hsji : ji = _ := attachSensor_of_boards hc hb hij.symm net' net
      rw [hsij, hsji, step_attachSensor_of_board hb, step_attachSensor_of_board hc]
      refine ⟨σ, hfixed, ?_, ?_, ?_, getElem?_concat_concat_swap s.sensors _ _, rfl⟩
      · show Except.ok (Reply.number (n + 1)) = .ok (.number (σ n))
        rw [Equiv.swap_apply_left]
      · show Except.ok (Reply.number n) = .ok (.number (σ (n + 1)))
        rw [Equiv.swap_apply_right]
      · exact congrArg (fun boards => { s.manager with boards := boards }) hboards

/-- Two operations on different boards, after any run.  What the first does is done to its own
board and to sensors that are on it.  Each has the outcome that it has alone, and the order in
which they are made leaves no trace, wherever the boards are and whether or not a request would
have had to wait; but sensors that both attach are numbered in the order in which they come. -/
theorem operations_on_boards_commute (interface : Endpoint)
    (steps : List (Network × Operation τ)) {a b : Operation τ} {i j : Nat}
    (ha : ((opened interface).through steps).addressee? a = some i)
    (hb : ((opened interface).through steps).addressee? b = some j) (hij : i ≠ j)
    (net net' : Network) :
    let s := (opened interface).through steps
    let ab := (s.step net a).session.step net' b
    let ba := (s.step net' b).session.step net a
    (∀ k, k ≠ i → (s.step net a).session.manager.boards[k]? = s.manager.boards[k]?) ∧
    (∀ index x, s.sensor? index = some x → x.board ≠ i →
      (s.step net a).session.sensor? index = some x) ∧
    (¬(a = .attachSensor i ∧ b = .attachSensor j) →
      ba.outcome = (s.step net a).outcome ∧ ab.outcome = (s.step net' b).outcome ∧
        ab.session = ba.session) ∧
    (a = .attachSensor i → b = .attachSensor j → ∃ σ : Equiv.Perm Nat,
      (∀ k < s.sensors.length, σ k = k) ∧
        ba.outcome = (s.step net a).outcome.map (·.renumber σ) ∧
        (s.step net' b).outcome = ab.outcome.map (·.renumber σ) ∧
        ab.session.Renumbered σ ba.session) := by
  intro s ab ba
  refine ⟨fun k hk => getElem?_boards_step ha hk net,
    fun index x hx hne => sensor?_step ha hx hne net, fun hattach => ?_, ?_⟩
  · exact steps_commute ha hb hij (fun hnew hnew' => hattach ⟨hnew, hnew'⟩) net net'
  · rintro rfl rfl
    exact attachSensor_swap (attached_through (attached_opened interface) steps) hij net net'

/-- Two boards at one address, with a sensor on each and a fault report waiting at the first. -/
def sharedAddressSteps : List (Network × Operation Unit) :=
  let spec : BoardSpec := ⟨⟨192, 168, 1, 1⟩, true, defaultPort, true, defaultPort⟩
  within sampleNetwork
    [.addBoard spec, .addBoard spec, .attachSensor 0, .attachSensor 1, .connectAll,
      .boardWrites 0 [8, 0, 0x61, 0, 0xef, 0xbe, 0, 0]]

def sharedAddressSession : Session Unit :=
  (opened ⟨⟨192, 168, 1, 100⟩, defaultPort⟩).through sharedAddressSteps

theorem operations_on_boards_commute_sharedAddressSession :
    let s := sharedAddressSession
    let asked := s.step sampleNetwork (.request 0 .getFault)
    let dropped := s.step sampleNetwork (.dropSensor 1)
    s.addressee? (.request 0 .getFault) = some 0 ∧ s.addressee? (.dropSensor 1) = some 1 ∧
      (dropped.session.step sampleNetwork (.request 0 .getFault)).outcome =
        .ok (.answer (.word 0xbeef)) ∧
      (asked.session.step sampleNetwork (.dropSensor 1)).session =
        (dropped.session.step sampleNetwork (.request 0 .getFault)).session := by
  have hfacing : ∃ x b stream, sharedAddressSession.Facing 0 x b stream ∧
      stream.pending = [8, 0, 0x61, 0, 0xef, 0xbe, 0, 0] := ⟨_, _, _, ⟨rfl, rfl, rfl, rfl⟩, rfl⟩
  obtain ⟨x, b, stream, hfacing, hpending⟩ := hfacing
  have hasked : (sharedAddressSession.step sampleNetwork (.request 0 .getFault)).outcome =
      .ok (.answer (.word 0xbeef)) := by
    have hsome : stream.pending ≠ [] := by
      rw [hpending]
      decide
    have hawaited : Request.getFault.awaited = some _ := rfl
    rw [outcome_of_pending hfacing hawaited rfl hsome, map_readReply_eq_ok_iff hawaited,
      Stream.ahead, hpending]
    exact ⟨_, rfl, _, _, rfl, rfl, .getFault _⟩
  have ha : sharedAddressSession.addressee? (.request 0 .getFault) = some 0 := rfl
  have hb : sharedAddressSession.addressee? (.dropSensor 1) = some 1 := rfl
  obtain ⟨-, -, hcommute, -⟩ := operations_on_boards_commute _ sharedAddressSteps ha hb
    (by decide) sampleNetwork sampleNetwork
  obtain ⟨houtcome, -, hsession⟩ := hcommute fun h => by cases h.1
  exact ⟨ha, hb, houtcome.trans hasked, hsession⟩

end Session
end WrenchLink

/-
The shared socket, its timeout and the receive loop over whole runs.

Five operations set these up, and all others leave them alone: `sameSocket_step`.  An open
socket waits as long as the manager says, which is never no time at all, and the loop runs only
over an open socket (`Manager.Consistent`).  Whether it runs can be told from the operations
and their outcomes: `receiving_through_iff`.
-/
import WrenchLink.Proofs.Session.BoardTable

namespace WrenchLink

/-- Where a socket is bound and how long it waits. -/
def DatagramSocket.setting (s : DatagramSocket) : Endpoint × Nat := (s.interface, s.readTimeout)

/-- Operations that open the socket, set its timeout, or start or stop the loop. -/
def Operation.setsUp {τ : Type} : Operation τ → Bool
  | .bind | .connectAll | .withTimeout _ | .startReceiving | .stopReceiving => true
  | _ => false

namespace Manager

variable {η : Type} {m m' m'' : Manager η}

def setting (m : Manager η) : Option (Endpoint × Nat) := m.socket.map DatagramSocket.setting

/-- Managers that are set up alike, whatever their boards are and whatever is waiting. -/
structure SameSocket (m m' : Manager η) : Prop where
  interface : m'.interface = m.interface
  timeout : m'.timeout = m.timeout
  setting : m'.setting = m.setting
  receiving : m'.receiving = m.receiving

namespace SameSocket

theorem refl (m : Manager η) : m.SameSocket m := ⟨rfl, rfl, rfl, rfl⟩

theorem trans (h : m.SameSocket m') (h' : m'.SameSocket m'') : m.SameSocket m'' :=
  ⟨h'.interface.trans h.interface, h'.timeout.trans h.timeout, h'.setting.trans h.setting,
    h'.receiving.trans h.receiving⟩

end SameSocket

theorem isBound_eq (m : Manager η) : m.isBound = m.setting.isSome := by
  rw [isBound, setting, Option.isSome_map]

theorem boundTo_eq_ok_iff {endpoint : Endpoint} :
    m.boundTo = .ok endpoint ↔ m.setting.map Prod.fst = some endpoint := by
  rw [boundTo, setting]
  cases m.socket <;> simp [DatagramSocket.setting]

theorem isBound_of_boundTo {endpoint : Endpoint} (h : m.boundTo = .ok endpoint) :
    m.isBound = true := by
  rw [boundTo_eq_ok_iff, Option.map_eq_some_iff] at h
  obtain ⟨p, hp, -⟩ := h
  rw [isBound_eq, hp]
  rfl

theorem sameSocket_addBoard (m : Manager η) (spec : BoardSpec) :
    m.SameSocket (m.addBoard spec).2 := by
  rw [addBoard]
  split <;> exact ⟨rfl, rfl, rfl, rfl⟩

theorem sameSocket_withBoard {α : Type} {refusal : Fault → α} {operation : Board η → α × Board η}
    (m : Manager η) (id : Nat) : m.SameSocket (m.withBoard id refusal operation).2 :=
  withBoard_induction (.refl m) fun _ _ => ⟨rfl, rfl, rfl, rfl⟩

theorem sameSocket_enqueue (m : Manager η) (d : Datagram) : m.SameSocket (m.enqueue d) := by
  refine ⟨rfl, rfl, ?_, rfl⟩
  show (m.socket.map _).map DatagramSocket.setting = m.socket.map DatagramSocket.setting
  rw [Option.map_map]
  rfl

theorem sameSocket_receive (m : Manager η) (packet : Packet) :
    m.SameSocket (m.receive packet).manager := by
  cases hqueued : m.queued with
  | nil =>
    rw [receive_of_queued_nil hqueued]
    split <;> exact ⟨rfl, rfl, rfl, rfl⟩
  | cons d rest =>
    rw [receive_of_queued hqueued]
    refine ⟨rfl, rfl, ?_, rfl⟩
    show (m.socket.map _).map DatagramSocket.setting = m.socket.map DatagramSocket.setting
    rw [Option.map_map]
    rfl

/-! ## Setting up -/

/-- An open socket is bound to the manager's interface and waits as long as the manager says,
and the loop needs one. -/
structure Consistent (m : Manager η) : Prop where
  setting : ∀ p ∈ m.setting, p = (m.interface, m.timeout) ∧ 0 < m.timeout
  receiving : m.receiving = true → m.isBound = true

theorem consistent_new (interface : Endpoint) : (new interface : Manager η).Consistent :=
  ⟨nofun, nofun⟩

theorem Consistent.of_sameSocket (hm : m.Consistent) (h : m.SameSocket m') : m'.Consistent where
  setting := by
    rw [h.setting, h.interface, h.timeout]
    exact hm.setting
  receiving := by
    rw [h.receiving, isBound_eq, h.setting, ← isBound_eq]
    exact hm.receiving

theorem bind_of_bound {net : Network} (h : m.isBound = true) : m.bind net = (.ok (), m) := by
  rw [bind, if_pos h]

theorem bind_of_unbound {net : Network} (h : m.isBound = false) :
    m.bind net =
      if net.bindable m.interface = true then
        if 0 < m.timeout then
          (.ok (), { m with socket := some { interface := m.interface, readTimeout := m.timeout } })
        else (.error (.transport .readTimeoutRefused), m)
      else (.error (.transport (.bindFailed m.interface)), m) := by
  have hzero : m.timeout = 0 ∨ 0 < m.timeout := by omega
  rw [bind, h]
  cases net.bindable m.interface with
  | false => simp
  | true =>
    obtain hzero | hpositive := hzero
    · simp [hzero]
    · simp [hpositive, Nat.ne_of_gt hpositive]

theorem Consistent.bind (hm : m.Consistent) (net : Network) : (m.bind net).2.Consistent := by
  cases hbound : m.isBound with
  | true =>
    rw [bind_of_bound hbound]
    exact hm
  | false =>
    rw [bind_of_unbound hbound]
    split
    · split
      · rename_i hpositive
        refine ⟨fun p hp => ?_, fun _ => rfl⟩
        cases hp
        exact ⟨rfl, hpositive⟩
      · exact hm
    · exact hm

theorem withTimeout_eq (m : Manager η) (timeout : Nat) :
    m.withTimeout timeout =
      if m.receiving = false ∧ (m.isBound = false ∨ 0 < timeout) then
        { m with timeout, socket := m.socket.map fun s => { s with readTimeout := timeout } }
      else m := by
  have hzero : timeout = 0 ↔ ¬0 < timeout := by omega
  rw [withTimeout, isBound]
  cases m.receiving with
  | true => simp
  | false =>
    cases hs : m.socket with
    | none => simp
    | some s => by_cases hpositive : 0 < timeout <;> simp [hzero, hpositive]

theorem Consistent.withTimeout (hm : m.Consistent) (timeout : Nat) :
    (m.withTimeout timeout).Consistent := by
  rw [withTimeout_eq]
  split
  · rename_i hallowed
    obtain ⟨hidle, hallowed⟩ := hallowed
    refine ⟨fun p hp => ?_, fun h => absurd h (by simp [hidle])⟩
    cases hs : m.socket with
    | none => simp [Manager.setting, hs] at hp
    | some s =>
      have hold := hm.setting s.setting (by rw [Manager.setting, hs]; rfl)
      have hinterface : s.interface = m.interface := congrArg Prod.fst hold.1
      have hp : (s.interface, timeout) = p := by
        simpa [Manager.setting, DatagramSocket.setting, hs] using hp
      have hpositive : 0 < timeout := by simpa [isBound, hs] using hallowed
      exact ⟨by rw [← hp, hinterface], hpositive⟩
  · exact hm

/-- Connecting the boards once the socket is open does not touch how the manager is set up. -/
theorem sameSocket_connectAll (net : Network) (m : Manager η) :
    (m.bind net).2.SameSocket (m.connectAll net).2 := by
  rw [connectAll]
  rcases m.bind net with ⟨_ | _, bound⟩ <;> exact ⟨rfl, rfl, rfl, rfl⟩

theorem startReceiving_eq (m : Manager η) :
    m.startReceiving =
      if m.isBound = true then (.ok (), { m with receiving := true }) else (.error .notBound, m) :=
  rfl

theorem Consistent.startReceiving (hm : m.Consistent) : m.startReceiving.2.Consistent := by
  rw [startReceiving_eq]
  split
  · rename_i hbound
    exact ⟨hm.setting, fun _ => hbound⟩
  · exact hm

/-- Stopping the loop stops it and leaves the rest of how the manager is set up alone. -/
theorem stopReceiving_keeps (m : Manager η) :
    { m with receiving := false }.SameSocket m.stopReceiving.2.2 := by
  rw [stopReceiving]
  cases hrunning : m.receiving with
  | false => exact ⟨rfl, rfl, rfl, hrunning⟩
  | true =>
    have hkept := m.sameSocket_receive Packet.empty
    exact ⟨hkept.interface, hkept.timeout, hkept.setting, rfl⟩

theorem Consistent.stopReceiving (hm : m.Consistent) : m.stopReceiving.2.2.Consistent := by
  have hidle : { m with receiving := false }.Consistent := ⟨hm.setting, nofun⟩
  exact hidle.of_sameSocket m.stopReceiving_keeps

/-- Opening the socket changes nothing else of how the manager is set up. -/
theorem bind_keeps (net : Network) (m : Manager η) :
    (m.bind net).2.interface = m.interface ∧ (m.bind net).2.receiving = m.receiving := by
  cases hbound : m.isBound with
  | true =>
    rw [bind_of_bound hbound]
    exact ⟨rfl, rfl⟩
  | false =>
    rw [bind_of_unbound hbound]
    split
    · split <;> exact ⟨rfl, rfl⟩
    · exact ⟨rfl, rfl⟩

end Manager

namespace Session

variable {τ : Type} {s : Session τ}

theorem sameSocket_step (net : Network) (s : Session τ) {operation : Operation τ}
    (hother : operation.setsUp = false) :
    s.manager.SameSocket (s.step net operation).session.manager := by
  have hs := Manager.SameSocket.refl s.manager
  cases operation with
  | addBoard spec => exact s.manager.sameSocket_addBoard spec
  | install | remove | sendTcp | receiveTcp | sendUdp => exact s.manager.sameSocket_withBoard _
  | handlerCount board => exact hs
  | receive =>
    rw [step_receive]
    exact s.manager.sameSocket_receive s.inbox
  | attachSensor board =>
    show s.manager.SameSocket (s.attachSensor board).2.manager
    rw [manager_attachSensor_eq]
    exact s.manager.sameSocket_withBoard board
  | configureSensor index settleTime limits | settles index =>
    rw [step]
    cases s.sensor? index <;> exact hs
  | dropSensor index =>
    exact manager_dropSensor hs index fun board _ => s.manager.sameSocket_withBoard board
  | request index request =>
    refine manager_request hs fun x => x.perform_induction net ?_ ?_ hs request
    · exact fun m id _ h => h.trans (m.sameSocket_withBoard id)
    · exact fun m id _ h => h.trans (m.sameSocket_withBoard id)
  | datagramArrives d => exact s.manager.sameSocket_enqueue d
  | loopCatchesUp =>
    refine loopCatchesUp_induction (P := fun t _ => s.manager.SameSocket t.manager) (h := []) net
      (fun _ _ _ ht => ht) (fun t _ ht => ht.trans ?_) hs
    rw [step_receive]
    exact t.manager.sameSocket_receive t.inbox
  | boardWrites board bytes => exact manager_withStream hs fun _ _ => ⟨rfl, rfl, rfl, rfl⟩
  | boardHangsUp board => exact manager_withStream hs fun _ _ => ⟨rfl, rfl, rfl, rfl⟩
  | withTcpReadTimeout | installTimeoutHandler | timePasses => exact ⟨rfl, rfl, rfl, rfl⟩
  | _ => cases hother

theorem consistent_step (net : Network) (hs : s.manager.Consistent) (operation : Operation τ) :
    (s.step net operation).session.manager.Consistent := by
  cases operation with
  | bind => exact hs.bind net
  | connectAll => exact (hs.bind net).of_sameSocket (s.manager.sameSocket_connectAll net)
  | withTimeout milliseconds => exact hs.withTimeout milliseconds
  | startReceiving => exact hs.startReceiving
  | stopReceiving =>
    rw [step_stopReceiving]
    exact hs.stopReceiving
  | _ => exact hs.of_sameSocket (s.sameSocket_step net rfl)

theorem consistent_through (hs : s.manager.Consistent) (steps : List (Network × Operation τ)) :
    (s.through steps).manager.Consistent :=
  through_induction (P := fun t => t.manager.Consistent) steps
    (fun _ net operation ht => consistent_step net ht operation) hs

theorem interface_step (net : Network) (s : Session τ) (operation : Operation τ) :
    (s.step net operation).session.manager.interface = s.manager.interface := by
  cases operation with
  | bind => exact (s.manager.bind_keeps net).1
  | connectAll =>
    exact (s.manager.sameSocket_connectAll net).interface.trans (s.manager.bind_keeps net).1
  | withTimeout milliseconds =>
    show (s.manager.withTimeout milliseconds).interface = _
    rw [Manager.withTimeout_eq]
    split <;> rfl
  | startReceiving =>
    show s.manager.startReceiving.2.interface = _
    rw [Manager.startReceiving_eq]
    split <;> rfl
  | stopReceiving =>
    rw [step_stopReceiving]
    exact s.manager.stopReceiving_keeps.interface
  | _ => exact (s.sameSocket_step net rfl).interface

theorem interface_through (s : Session τ) (steps : List (Network × Operation τ)) :
    (s.through steps).manager.interface = s.manager.interface :=
  through_induction (P := fun t => t.manager.interface = s.manager.interface) steps
    (fun t net operation ht => (t.interface_step net operation).trans ht) rfl

theorem step_bind_of_bound (net : Network) (h : s.manager.isBound = true) :
    s.step net .bind = ⟨.ok .done, [], s⟩ := by
  rw [step, Manager.bind_of_bound h]
  rfl

theorem step_bind_of_unbound (net : Network) (h : s.manager.isBound = false) :
    ((s.step net .bind).outcome = .ok .done ↔
      net.bindable s.manager.interface = true ∧ 0 < s.manager.timeout) ∧
    ((s.step net .bind).outcome = .ok .done →
      (s.step net .bind).session.manager.boundTo = .ok s.manager.interface) ∧
    (∀ fault, (s.step net .bind).outcome = .error fault → (s.step net .bind).session = s) := by
  rw [step, Manager.bind_of_unbound h]
  by_cases hbindable : net.bindable s.manager.interface = true
  · by_cases hpositive : 0 < s.manager.timeout
    · simp [hbindable, hpositive, lift, Except.map, Manager.boundTo]
    · simp [hbindable, hpositive, lift, Except.map]
  · simp [hbindable, lift, Except.map]

theorem boundTo_step (net : Network) {endpoint : Endpoint}
    (hs : s.manager.boundTo = .ok endpoint) (operation : Operation τ) :
    (s.step net operation).session.manager.boundTo = .ok endpoint := by
  have hbound := Manager.isBound_of_boundTo hs
  have hsetting := Manager.boundTo_eq_ok_iff.mp hs
  rw [Manager.boundTo_eq_ok_iff]
  cases operation with
  | bind =>
    rw [step_bind_of_bound net hbound]
    exact hsetting
  | connectAll =>
    have hkept := (s.manager.sameSocket_connectAll net).setting
    rw [Manager.bind_of_bound hbound] at hkept
    exact (congrArg (Option.map Prod.fst) hkept).trans hsetting
  | withTimeout milliseconds =>
    show (s.manager.withTimeout milliseconds).setting.map Prod.fst = _
    rw [Manager.withTimeout_eq]
    split
    · rw [← hsetting, Manager.setting, Manager.setting]
      cases s.manager.socket <;> rfl
    · exact hsetting
  | startReceiving =>
    show s.manager.startReceiving.2.setting.map Prod.fst = _
    rw [Manager.startReceiving_eq, if_pos hbound]
    exact hsetting
  | stopReceiving =>
    rw [step_stopReceiving]
    show s.manager.stopReceiving.2.2.setting.map Prod.fst = _
    rw [s.manager.stopReceiving_keeps.setting]
    exact hsetting
  | _ =>
    rw [(s.sameSocket_step net rfl).setting]
    exact hsetting

theorem boundTo_through {endpoint : Endpoint} (hs : s.manager.boundTo = .ok endpoint)
    (steps : List (Network × Operation τ)) :
    (s.through steps).manager.boundTo = .ok endpoint :=
  through_induction (P := fun t => t.manager.boundTo = .ok endpoint) steps
    (fun _ net operation ht => boundTo_step net ht operation) hs

theorem outcome_startReceiving (net : Network) (s : Session τ) :
    (s.step net .startReceiving).outcome =
      if s.manager.isBound = true then .ok .done else .error .notBound := by
  rw [step, Manager.startReceiving_eq]
  split <;> rfl

/-! ## Whether the loop runs -/

theorem receiving_step_iff (net : Network) (s : Session τ) (operation : Operation τ) :
    (s.step net operation).session.manager.receiving = true ↔
      (operation = .startReceiving ∧ (s.step net operation).outcome = .ok .done) ∨
        (s.manager.receiving = true ∧ operation ≠ .stopReceiving) := by
  cases hsetsUp : operation.setsUp with
  | false =>
    have hkept := (s.sameSocket_step net hsetsUp).receiving
    have hstart : operation ≠ .startReceiving := by
      rintro rfl
      cases hsetsUp
    have hstop : operation ≠ .stopReceiving := by
      rintro rfl
      cases hsetsUp
    simp [hkept, hstart, hstop]
  | true =>
    cases operation with
    | bind =>
      have hkept : (s.step net .bind).session.manager.receiving = s.manager.receiving :=
        (s.manager.bind_keeps net).2
      simp [hkept]
    | connectAll =>
      have hkept : (s.step net .connectAll).session.manager.receiving = s.manager.receiving :=
        (s.manager.sameSocket_connectAll net).receiving.trans (s.manager.bind_keeps net).2
      simp [hkept]
    | withTimeout milliseconds =>
      have hkept : (s.manager.withTimeout milliseconds).receiving = s.manager.receiving := by
        rw [Manager.withTimeout_eq]
        split <;> rfl
      simp [step, settle, hkept]
    | startReceiving =>
      rw [outcome_startReceiving]
      cases hbound : s.manager.isBound <;>
        simp [step, Manager.startReceiving_eq, hbound, lift]
    | stopReceiving =>
      have hidle : (s.step net .stopReceiving).session.manager.receiving = false := by
        rw [step_stopReceiving]
        exact s.manager.stopReceiving_keeps.receiving
      simp [hidle]
    | _ => cases hsetsUp

/-- The loop runs if some start of it succeeded and no stop came later, or if it ran before and
no stop came at all. -/
theorem receiving_through_iff (s : Session τ) (steps : List (Network × Operation τ)) :
    (s.through steps).manager.receiving = true ↔
      (∃ (k : Nat) (net : Network) (stepped : Stepped τ),
        steps[k]? = some (net, .startReceiving) ∧ (s.run steps)[k]? = some stepped ∧
        stepped.outcome = .ok .done ∧ .stopReceiving ∉ (steps.drop (k + 1)).map Prod.snd) ∨
      (s.manager.receiving = true ∧ .stopReceiving ∉ steps.map Prod.snd) := by
  induction steps generalizing s with
  | nil => simp [through]
  | cons step rest ih =>
    obtain ⟨net, operation⟩ := step
    rw [through_cons, ih, receiving_step_iff, List.map_cons]
    constructor
    · rintro (⟨k, net, stepped, hk, hstepped, hok, hlater⟩ |
        ⟨⟨rfl, hok⟩ | ⟨hran, hstop⟩, hlater⟩)
      · exact Or.inl ⟨k + 1, net, stepped, hk, hstepped, hok, hlater⟩
      · exact Or.inl ⟨0, net, _, rfl, rfl, hok, hlater⟩
      · refine Or.inr ⟨hran, fun hmem => ?_⟩
        rw [List.mem_cons] at hmem
        exact hmem.elim (fun h => hstop h.symm) hlater
    · rintro (⟨k, net, stepped, hk, hstepped, hok, hlater⟩ | ⟨hran, hlater⟩)
      · cases k with
        | zero =>
          cases hk
          cases hstepped
          exact Or.inr ⟨Or.inl ⟨rfl, hok⟩, hlater⟩
        | succ k => exact Or.inl ⟨k, net, stepped, hk, hstepped, hok, hlater⟩
      · rw [List.mem_cons, not_or] at hlater
        exact Or.inr ⟨Or.inr ⟨hran, fun h => hlater.1 h.symm⟩, hlater.2⟩

/-- In every session that operations lead to from a new manager: an open socket waits as long as
the manager says, which is never no time at all, and the loop runs only over an open socket.
Once open, the socket stays where it is, and opening it again changes nothing.  The timeout
changes unless the loop runs or an open socket is to wait no time.  Opening the socket succeeds
exactly if the interface is there and the timeout is positive, and otherwise changes nothing.
Starting the loop fails exactly for want of a socket, and the loop runs exactly if a start of it
succeeded after the last stop. -/
theorem socket_and_loop_are_kept (interface : Endpoint) (steps : List (Network × Operation τ)) :
    let s := (opened interface).through steps
    (∀ socket, s.manager.socket = some socket →
      0 < s.manager.timeout ∧ socket.readTimeout = s.manager.timeout) ∧
    (s.manager.receiving = true → s.manager.isBound = true) ∧
    (∀ endpoint, s.manager.boundTo = .ok endpoint →
      (∀ later, (s.through later).manager.boundTo = .ok endpoint) ∧
      ∀ net, s.step net .bind = ⟨.ok .done, [], s⟩) ∧
    (∀ net milliseconds, (s.step net (.withTimeout milliseconds)).session.manager.timeout =
      if s.manager.receiving = false ∧ (s.manager.isBound = false ∨ 0 < milliseconds) then
        milliseconds
      else s.manager.timeout) ∧
    (s.manager.isBound = false → ∀ net,
      ((s.step net .bind).outcome = .ok .done ↔
        net.bindable interface = true ∧ 0 < s.manager.timeout) ∧
      ((s.step net .bind).outcome = .ok .done →
        (s.step net .bind).session.manager.boundTo = .ok interface) ∧
      (∀ fault, (s.step net .bind).outcome = .error fault →
        (s.step net .bind).session.manager.isBound = false)) ∧
    (∀ net, (s.step net .startReceiving).outcome =
      if s.manager.isBound = true then .ok .done else .error .notBound) ∧
    (s.manager.receiving = true ↔
      ∃ (k : Nat) (net : Network) (stepped : Stepped τ),
        steps[k]? = some (net, .startReceiving) ∧
        ((opened interface).run steps)[k]? = some stepped ∧
        stepped.outcome = .ok .done ∧
        .stopReceiving ∉ (steps.drop (k + 1)).map Prod.snd) := by
  intro s
  have hs : s.manager.Consistent :=
    consistent_through (Manager.consistent_new interface) steps
  have hinterface : s.manager.interface = interface :=
    (opened interface : Session τ).interface_through steps
  refine ⟨fun socket hsocket => ?_, hs.receiving, fun endpoint hbound => ⟨?_, fun net => ?_⟩,
    fun net milliseconds => ?_, fun hunbound net => ?_, fun net => s.outcome_startReceiving net, ?_⟩
  · have hsetting := hs.setting socket.setting (by rw [Manager.setting, hsocket]; rfl)
    exact ⟨hsetting.2, congrArg Prod.snd hsetting.1⟩
  · exact boundTo_through hbound
  · exact step_bind_of_bound net (Manager.isBound_of_boundTo hbound)
  · show (s.manager.withTimeout milliseconds).timeout = _
    rw [Manager.withTimeout_eq]
    split <;> rfl
  · obtain ⟨hok, hopened, hfails⟩ := step_bind_of_unbound net hunbound
    rw [hinterface] at hok hopened
    refine ⟨hok, hopened, fun fault hfault => ?_⟩
    rw [hfails fault hfault]
    exact hunbound
  · rw [receiving_through_iff]
    exact or_iff_left fun h => Bool.false_ne_true h.1

end Session
end WrenchLink

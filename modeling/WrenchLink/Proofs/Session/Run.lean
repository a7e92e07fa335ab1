/-
Runs of a session and the histories that they leave behind.

A port that refused connections may accept them later, so every operation of a run meets a
network of its own.  `Session.through` is the session that such a run ends in, and
`Session.history` lists what has happened to its manager on the way.  At every point of a run
from a new manager, the manager is what its history makes it: `follows_through`.

The receive loop does what as many single receives do: `loopCatchesUp_eq`.
-/
import WrenchLink.Proofs.Manager.Follows
import WrenchLink.Proofs.Sensor.Transaction
import WrenchLink.Session

namespace WrenchLink

theorem Sensor.alike_perform {η : Type} (net : Network) (x : Sensor) (m : Manager η)
    (request : Request) : m.Alike (x.perform net m request).manager :=
  x.perform_induction net (fun m' id packet h => h.trans (m'.alike_sendTcp net id packet))
    (fun m' id packet h => h.trans (m'.alike_receiveTcp id packet)) (.refl m) request

/-- Operations that add nothing to the history. -/
def Operation.isQuiet {τ : Type} : Operation τ → Bool
  | .bind | .connectAll | .withTimeout _ | .withTcpReadTimeout _ | .startReceiving
  | .handlerCount _ | .sendTcp _ _ | .receiveTcp _ _ | .sendUdp _ _ | .configureSensor _ _ _
  | .request _ _ | .settles _ | .boardWrites _ _ | .boardHangsUp _ => true
  | _ => false

/-- Operations of the receive loop, which does what receives do with a packet of its own. -/
def Operation.polls {τ : Type} : Operation τ → Bool
  | .loopCatchesUp | .stopReceiving => true
  | _ => false

namespace Session

variable {τ : Type}

def opened (interface : Endpoint) : Session τ := start (Manager.new interface)

/-- The session after the operations, each of which met the network beside it. -/
def through (s : Session τ) (steps : List (Network × Operation τ)) : Session τ :=
  steps.foldl (fun s (net, operation) => (s.step net operation).session) s

/-- The steps of a run that meets one network all the way. -/
def within (net : Network) (operations : List (Operation τ)) : List (Network × Operation τ) :=
  operations.map (net, ·)

/-- What an operation adds to the history. -/
def occurrences (s : Session τ) : Operation τ → History (Callback τ)
  | .addBoard spec =>
    match (s.manager.addBoard spec).1 with
    | .ok _ => [.boardAdded spec.address]
    | .error _ => []
  | .install board tag =>
    match (s.manager.install board (.observer tag)).1 with
    | .ok token => [.handlerInstalled board token (.observer tag)]
    | .error _ => []
  | .attachSensor board =>
    match (s.manager.install board (.sensor s.sensors.length)).1 with
    | .ok token => [.handlerInstalled board token (.sensor s.sensors.length)]
    | .error _ => []
  | .remove board token =>
    match (s.manager.remove board token).1 with
    | .ok _ => [.handlerRemoved board token]
    | .error _ => []
  | .dropSensor index =>
    match s.sensor? index with
    | some sensor =>
      match (s.manager.remove sensor.board sensor.token).1 with
      | .ok _ => [.handlerRemoved sensor.board sensor.token]
      | .error _ => []
    | none => []
  | .installTimeoutHandler tag => [.timeoutHandlerInstalled (.observer tag)]
  | .datagramArrives d => if s.manager.isBound then [.arrived d] else []
  | .receive => s.manager.polled
  | .loopCatchesUp => s.manager.queued.map .received
  | .timePasses => [.timePassed]
  | .stopReceiving => if s.manager.receiving then s.manager.polled else []
  | .bind | .connectAll | .withTimeout _ | .withTcpReadTimeout _ | .startReceiving
  | .handlerCount _ | .sendTcp _ _ | .receiveTcp _ _ | .sendUdp _ _ | .configureSensor _ _ _
  | .request _ _ | .settles _ | .boardWrites _ _ | .boardHangsUp _ => []

/-- What has happened once the operations are done. -/
def history (s : Session τ) : List (Network × Operation τ) → History (Callback τ)
  | [] => []
  | (net, operation) :: rest =>
    s.occurrences operation ++ (s.step net operation).session.history rest

@[simp] theorem through_cons (s : Session τ) (net : Network) (operation : Operation τ)
    (rest : List (Network × Operation τ)) :
    s.through ((net, operation) :: rest) = (s.step net operation).session.through rest :=
  rfl

theorem through_append (s : Session τ) (steps later : List (Network × Operation τ)) :
    s.through (steps ++ later) = (s.through steps).through later :=
  List.foldl_append

theorem through_concat (s : Session τ) (steps : List (Network × Operation τ)) (net : Network)
    (operation : Operation τ) :
    s.through (steps ++ [(net, operation)]) =
      ((s.through steps).step net operation).session :=
  s.through_append steps [(net, operation)]

/-! ## Operations that nobody notices -/

theorem alike_withStream (s : Session τ) (board : Nat) (f : TcpChannel → TcpChannel) :
    s.manager.Alike (s.withStream board f).session.manager := by
  rw [withStream]
  cases hb : s.manager.boards[board]? with
  | none => exact .refl s.manager
  | some b => exact Manager.alike_setBoard hb rfl

theorem alike_of_quiet (net : Network) (s : Session τ) {operation : Operation τ}
    (hquiet : operation.isQuiet = true) :
    s.manager.Alike (s.step net operation).session.manager := by
  cases operation with
  | bind => exact s.manager.alike_bind net
  | connectAll => exact s.manager.alike_connectAll net
  | withTimeout milliseconds => exact s.manager.alike_withTimeout milliseconds
  | withTcpReadTimeout milliseconds => exact ⟨rfl, rfl, rfl, rfl, rfl⟩
  | startReceiving => exact s.manager.alike_startReceiving
  | handlerCount board => exact .refl s.manager
  | sendTcp board packet => exact s.manager.alike_sendTcp net board packet
  | receiveTcp board packet => exact s.manager.alike_receiveTcp board packet
  | sendUdp board packet => exact s.manager.alike_sendUdp net board packet
  | configureSensor index settleTime limits | settles index =>
    rw [step]
    cases s.sensor? index <;> exact .refl s.manager
  | request index request =>
    rw [step]
    cases s.sensor? index with
    | none => exact .refl s.manager
    | some sensor => exact sensor.alike_perform net s.manager request
  | boardWrites board bytes => exact s.alike_withStream board _
  | boardHangsUp board => exact s.alike_withStream board _
  | _ => cases hquiet

/-! ## Receiving -/

def hear (sensors : List (Option Sensor)) : Event (Callback τ) → List (Option Sensor)
  | .datagram (.sensor index) bytes => sensors.modify index (Option.map (·.observe bytes))
  | .datagram (.observer _) _ | .silent _ _ => sensors

theorem deliver_eq (s : Session τ) (e : Event (Callback τ)) :
    s.deliver e = ⟨s.manager, hear s.sensors e, s.inbox⟩ := by
  match e with
  | .silent _ _ | .datagram (.observer _) _ => rfl
  | .datagram (.sensor index) bytes =>
    rw [deliver, hear]
    cases hsensor : s.sensor? index with
    | some sensor =>
      have hget : s.sensors[index]? = some (some sensor) := Option.join_eq_some_iff.mp hsensor
      obtain ⟨hlt, -⟩ := List.getElem?_eq_some_iff.mp hget
      show Session.mk s.manager (s.sensors.set index (some (sensor.observe bytes))) s.inbox = _
      congr 1
      apply List.ext_getElem?
      intro i
      by_cases hi : index = i
      · subst hi
        rw [List.getElem?_set_self hlt, List.getElem?_modify_eq, hget]
        rfl
      · rw [List.getElem?_set_ne hi, List.getElem?_modify_ne _ _ hi]
    | none =>
      show Session.mk s.manager s.sensors s.inbox = _
      congr 1
      apply List.ext_getElem?
      intro i
      by_cases hi : index = i
      · subst hi
        rw [List.getElem?_modify_eq]
        rcases Option.join_eq_none_iff.mp hsensor with hget | hget <;> rw [hget] <;> rfl
      · rw [List.getElem?_modify_ne _ _ hi]

theorem witness_eq (s : Session τ) (events : List (Event (Callback τ))) :
    s.witness events =
      (events.filterMap notice?, ⟨s.manager, events.foldl hear s.sensors, s.inbox⟩) := by
  have hsession : events.foldl deliver s = ⟨s.manager, events.foldl hear s.sensors, s.inbox⟩ := by
    induction events generalizing s with
    | nil => rfl
    | cons e rest ih =>
      rw [List.foldl_cons, ih, deliver_eq]
      rfl
  rw [witness, hsession]

theorem step_receive (net : Network) (s : Session τ) :
    s.step net .receive =
      let r := s.manager.receive s.inbox
      ⟨r.outcome.map .number, r.events.filterMap notice?,
        ⟨r.manager, r.events.foldl hear s.sensors, r.packet⟩⟩ := by
  rw [step, witness_eq]

theorem step_stopReceiving (net : Network) (s : Session τ) :
    s.step net .stopReceiving =
      let r := s.manager.stopReceiving
      ⟨.ok (.flag r.1), r.2.1.filterMap notice?, ⟨r.2.2, r.2.1.foldl hear s.sensors, s.inbox⟩⟩ := by
  simp only [step, witness_eq]

theorem step_loopCatchesUp (net : Network) (s : Session τ) :
    s.step net .loopCatchesUp =
      let r := s.manager.drain Packet.empty s.manager.queued.length
      ⟨.ok .done, r.1.filterMap notice?, ⟨r.2, r.1.foldl hear s.sensors, s.inbox⟩⟩ := by
  rw [← Manager.receiveQueued_eq]
  simp only [step, witness_eq]

/-- Draining the queue calls whom as many single receives call as there are datagrams
waiting, and leaves the same manager and sensors. -/
theorem drain_eq (net : Network) {s : Session τ} {waiting : List Datagram}
    (hqueued : s.manager.queued = waiting) (packet : Packet) :
    let receives := List.replicate waiting.length (net, .receive)
    let r := s.manager.drain packet waiting.length
    s.through receives = ⟨r.2, r.1.foldl hear s.sensors, (s.through receives).inbox⟩ ∧
      (s.run receives).flatMap Stepped.notices = r.1.filterMap notice? ∧
      s.history receives = waiting.map .received := by
  induction waiting generalizing s packet with
  | nil => exact ⟨rfl, rfl, rfl⟩
  | cons d rest ih =>
    have hstep := s.step_receive net
    rw [Manager.receive_of_queued hqueued] at hstep
    have hrest : (s.step net .receive).session.manager.queued = rest := by
      rw [hstep, Manager.queued_afterTaking, hqueued, List.tail_cons]
    obtain ⟨hthrough, hnotices, hhistory⟩ := ih hrest (packet.store d.bytes)
    simp only [List.length_cons, List.replicate_succ, Manager.drain,
      Manager.receive_of_queued hqueued, List.foldl_append, List.filterMap_append]
    rw [hstep] at hthrough hnotices
    refine ⟨?_, ?_, ?_⟩
    · rw [through_cons, hstep]
      exact hthrough
    · rw [run, List.flatMap_cons, hstep, hnotices]
    · rw [history, hhistory, occurrences, Manager.polled, hqueued]
      rfl

theorem loopCatchesUp_eq (net : Network) (s : Session τ) :
    let receives := List.replicate s.manager.queued.length (net, .receive)
    (s.step net .loopCatchesUp).notices = (s.run receives).flatMap Stepped.notices ∧
      (s.step net .loopCatchesUp).session = { s.through receives with inbox := s.inbox } ∧
      s.occurrences .loopCatchesUp = s.history receives := by
  intro receives
  obtain ⟨hthrough, hnotices, hhistory⟩ := s.drain_eq net rfl Packet.empty
  rw [step_loopCatchesUp]
  refine ⟨hnotices.symm, ?_, hhistory.symm⟩
  rw [hthrough]

/-- A loop that is stopped makes one more receive, whose packet is not the session's own. -/
theorem stopReceiving_eq (net : Network) {s : Session τ} (h : s.manager.receiving = true) :
    let received := s.step net .receive
    (s.step net .stopReceiving).notices = received.notices ∧
      (s.step net .stopReceiving).session =
        { received.session with
          manager := { received.session.manager with receiving := false }
          inbox := s.inbox } := by
  rw [step_stopReceiving, step_receive, Manager.stopReceiving, if_pos h]
  cases hqueued : s.manager.queued with
  | cons d rest =>
    simp only [Manager.receive_of_queued hqueued, and_self]
  | nil =>
    rw [Manager.receive_of_queued_nil hqueued, Manager.receive_of_queued_nil hqueued]
    cases s.manager.isBound <;> exact ⟨rfl, rfl⟩

/-! ## Runs by their steps -/

section Induction

variable {s : Session τ} {h : History (Callback τ)}

/-- What every step keeps, together with the history up to it, a run keeps. -/
theorem history_induction {P : Session τ → History (Callback τ) → Prop}
    (steps : List (Network × Operation τ))
    (hstep : ∀ s h net operation, (net, operation) ∈ steps → P s h →
      P (s.step net operation).session (h ++ s.occurrences operation))
    (hs : P s h) : P (s.through steps) (h ++ s.history steps) := by
  induction steps generalizing s h with
  | nil =>
    rw [history, List.append_nil]
    exact hs
  | cons step rest ih =>
    rw [history, ← List.append_assoc]
    exact ih (fun t k net o ho => hstep t k net o (List.mem_cons_of_mem _ ho))
      (hstep s h step.1 step.2 List.mem_cons_self hs)

theorem through_induction {P : Session τ → Prop} (steps : List (Network × Operation τ))
    (hstep : ∀ s net operation, P s → P (s.step net operation).session) (hs : P s) :
    P (s.through steps) :=
  history_induction (P := fun s _ => P s) (h := []) steps
    (fun s _ net operation _ => hstep s net operation) hs

/-- What a receive keeps, the loop keeps, unless it depends on the session's own packet, which
the loop does not use. -/
theorem loopCatchesUp_induction {P : Session τ → History (Callback τ) → Prop} (net : Network)
    (hinbox : ∀ s h packet, P s h → P { s with inbox := packet } h)
    (hreceive : ∀ s h, P s h → P (s.step net .receive).session (h ++ s.occurrences .receive))
    (hs : P s h) :
    P (s.step net .loopCatchesUp).session (h ++ s.occurrences .loopCatchesUp) := by
  obtain ⟨-, hsession, hhistory⟩ := s.loopCatchesUp_eq net
  rw [hsession, hhistory]
  refine hinbox _ _ s.inbox (history_induction _ (fun t k _ operation hop ht => ?_) hs)
  cases List.eq_of_mem_replicate hop
  exact hreceive t k ht

/-- What a receive keeps, the loop keeps also when it is stopped, unless it depends on the session's
own packet or on whether the loop runs. -/
theorem polls_induction {P : Session τ → History (Callback τ) → Prop} (net : Network)
    {operation : Operation τ} (hpolls : operation.polls = true)
    (hset : ∀ s h receiving packet, P s h →
      P ⟨{ s.manager with receiving }, s.sensors, packet⟩ h)
    (hreceive : ∀ s h, P s h → P (s.step net .receive).session (h ++ s.occurrences .receive))
    (hs : P s h) :
    P (s.step net operation).session (h ++ s.occurrences operation) := by
  cases operation with
  | loopCatchesUp =>
    exact loopCatchesUp_induction net (fun t k => hset t k t.manager.receiving) hreceive hs
  | stopReceiving =>
    rw [occurrences]
    cases hrunning : s.manager.receiving with
    | true =>
      rw [(stopReceiving_eq net hrunning).2]
      exact hset _ _ false s.inbox (hreceive s h hs)
    | false =>
      rw [step_stopReceiving, Manager.stopReceiving, hrunning, if_neg Bool.false_ne_true,
        if_neg Bool.false_ne_true, List.append_nil]
      exact hs
  | _ => cases hpolls

end Induction

/-! ## The manager follows the history -/

section Follows

variable {s : Session τ} {h : History (Callback τ)}

theorem manager_attachSensor_eq (s : Session τ) (board : Nat) :
    (s.attachSensor board).2.manager =
      (s.manager.install board (.sensor s.sensors.length)).2 := by
  rw [attachSensor]
  rcases s.manager.install board (.sensor s.sensors.length) with ⟨_ | _, m⟩ <;> rfl

theorem follows_dropSensor (hs : s.manager.Follows h) (index : Nat) :
    (s.dropSensor index).manager.Follows (h ++ s.occurrences (.dropSensor index)) := by
  cases hsensor : s.sensor? index with
  | none => simpa [dropSensor, occurrences, hsensor] using hs
  | some x =>
    rw [dropSensor, occurrences, hsensor]
    exact hs.remove x.board x.token

theorem follows_step (net : Network) (hs : s.manager.Follows h) (operation : Operation τ) :
    (s.step net operation).session.manager.Follows (h ++ s.occurrences operation) := by
  cases operation with
  | addBoard spec =>
    show (s.manager.addBoard spec).2.Follows _
    rw [occurrences]
    rcases hadd : s.manager.addBoard spec with ⟨_ | id, m⟩
    · rw [Manager.addBoard_of_error hadd, List.append_nil]
      exact hs
    · exact hs.addBoard hadd
  | install board tag => exact hs.install board (.observer tag)
  | remove board token => exact hs.remove board token
  | attachSensor board =>
    show (s.attachSensor board).2.manager.Follows _
    rw [manager_attachSensor_eq]
    exact hs.install board (.sensor s.sensors.length)
  | dropSensor index => exact follows_dropSensor hs index
  | installTimeoutHandler tag => exact hs.installTimeoutHandler (.observer tag)
  | datagramArrives d =>
    rw [step, occurrences]
    cases hbound : s.manager.isBound with
    | true => exact hs.enqueue hbound d
    | false =>
      -- Without a socket the datagram is lost.
      have hnone : s.manager.socket = none := by simpa [Manager.isBound] using hbound
      have hlost : s.manager.enqueue d = s.manager := by
        rw [Manager.enqueue, hnone, Option.map_none, ← hnone]
      simpa [settle, hlost] using hs
  | receive =>
    rw [step_receive]
    exact hs.receive s.inbox
  | loopCatchesUp =>
    refine loopCatchesUp_induction (P := fun s h => s.manager.Follows h) net
      (fun _ _ _ ht => ht) (fun t _ ht => ?_) hs
    rw [step_receive]
    exact ht.receive t.inbox
  | timePasses => exact hs.wait
  | stopReceiving =>
    rw [step_stopReceiving]
    exact hs.stopReceiving
  | _ =>
    rw [occurrences, List.append_nil]
    exact hs.of_alike (alike_of_quiet net s rfl)

end Follows

theorem follows_through (interface : Endpoint) (steps : List (Network × Operation τ)) :
    ((opened interface).through steps).manager.Follows ((opened interface).history steps) := by
  have hnew : (opened interface : Session τ).manager.Follows [] := Manager.follows_new interface
  exact history_induction (P := fun s h => s.manager.Follows h) steps
    (fun _ _ net operation _ hs => follows_step net hs operation) hnew

end Session
end WrenchLink

/-
The handlers of a board over a whole run.

Only an installation, by an observer or for a sensor, gives a token out, and it gives out how
many there were before: `Counts`, which every step keeps.  So at any point of a run the tokens
of a board's handlers increase in the order of installation, a token names at most one handler,
and what removing by it does and how many handlers are left can be told from the history:
`tokens_name_handlers`.
-/
import WrenchLink.Proofs.Manager.Numbering
import WrenchLink.Proofs.Session.Attachment
import WrenchLink.Proofs.Session.Demultiplexing

namespace WrenchLink

def Operation.installs {τ : Type} : Operation τ → Bool
  | .install _ _ | .attachSensor _ => true
  | _ => false

theorem Registry.contains_iff {η : Type} {r : Registry η} {token : Nat} :
    r.contains token = true ↔ ∃ handler, (token, handler) ∈ r.installed := by
  rw [contains, List.any_eq_true]
  constructor
  · rintro ⟨⟨t, handler⟩, hmem, ht⟩
    rw [beq_iff_eq] at ht
    exact ⟨handler, ht ▸ hmem⟩
  · rintro ⟨handler, hmem⟩
    exact ⟨(token, handler), hmem, beq_self_eq_true token⟩

namespace Manager

variable {η : Type} {m : Manager η} {i : Nat} {b : Board η}

theorem setBoard_remove_of_not_contains (hb : m.boards[i]? = some b) {token : Nat}
    (hnone : b.registry.contains token = false) : m.setBoard i (b.remove token).2 = m := by
  have hsame : (b.remove token).2 = b := by
    show { b with registry := (b.registry.remove token).2 } = b
    rw [Registry.remove_of_not_contains hnone]
  rw [hsame, setBoard_self hb]

end Manager

namespace Session

variable {τ : Type} {s s' : Session τ} {h : History (Callback τ)}

/-! ## Tokens count installations -/

/-- The token that the next handler of a board gets. -/
def nextToken (s : Session τ) (i : Nat) : Nat := (s.audience? i).elim 0 (·.2.next)

theorem nextToken_of_audienceWith {board : Nat}
    {f : Registry (Callback τ) → Registry (Callback τ)}
    (haudience : ∀ i, s'.audience? i = s.audienceWith board f i) (hnext : ∀ r, (f r).next = r.next)
    (i : Nat) : s'.nextToken i = s.nextToken i := by
  rw [nextToken, haudience, audienceWith, nextToken]
  split
  · cases s.audience? i with
    | none => rfl
    | some audience => exact hnext audience.2
  · rfl

theorem nextToken_of_shift {operation : Operation τ} (hshift : Shift s s' operation)
    (hop : operation.installs = false) (i : Nat) : s'.nextToken i = s.nextToken i := by
  cases hshift with
  | still haudience hholding => rw [nextToken, haudience, nextToken]
  | received hqueued haudience hholding => rw [nextToken, haudience, nextToken]
  | boardAdded hfresh haudience hholding =>
    rw [nextToken, haudience, nextToken]
    split
    · rename_i hi
      rw [hi, hfresh]
      rfl
    · rfl
  | removed haudience hholding => exact nextToken_of_audienceWith haudience (fun _ => rfl) i
  | dropped hsensor haudience hholding =>
    exact nextToken_of_audienceWith haudience (fun _ => rfl) i
  | installed | attached => cases hop

theorem addition_of_polled {o : Occurrence (Callback τ)} (ho : o ∈ s.manager.polled) (i : Nat) :
    o.addition i = [] := by
  rw [Manager.polled] at ho
  split at ho
  · rw [List.mem_singleton.mp ho]
    rfl
  · split at ho
    · rw [List.mem_singleton.mp ho]
      rfl
    · cases ho

theorem addition_of_occurrences {operation : Operation τ} (hop : operation.installs = false)
    {o : Occurrence (Callback τ)} (ho : o ∈ s.occurrences operation) (i : Nat) :
    o.addition i = [] := by
  cases operation with
  | install | attachSensor => cases hop
  | installTimeoutHandler | timePasses =>
    rw [List.mem_singleton.mp ho]
    rfl
  | loopCatchesUp =>
    obtain ⟨d, -, rfl⟩ := List.mem_map.mp ho
    rfl
  | addBoard | remove | datagramArrives =>
    rw [occurrences] at ho
    split at ho
    · rw [List.mem_singleton.mp ho]
      rfl
    · cases ho
  | receive => exact addition_of_polled ho i
  | stopReceiving =>
    rw [occurrences] at ho
    split at ho
    · exact addition_of_polled ho i
    · cases ho
  | dropSensor =>
    rw [occurrences] at ho
    split at ho
    · split at ho
      · rw [List.mem_singleton.mp ho]
        rfl
      · cases ho
    · cases ho
  | _ => cases ho

/-- The next token of every board is how many installations it has seen. -/
structure Counts (s : Session τ) (h : History (Callback τ)) : Prop where
  next : ∀ i, s.nextToken i = (h.installs i).length
  numbered : ∀ i, h.Numbered i

theorem counts_opened (interface : Endpoint) : (opened interface : Session τ).Counts [] :=
  ⟨fun _ => rfl, fun _ => .of_nil⟩

namespace Counts

theorem of_quiet (hs : s.Counts h) {later : History (Callback τ)}
    (hnext : ∀ i, s'.nextToken i = s.nextToken i)
    (hquiet : ∀ i, ∀ o ∈ later, o.addition i = []) : s'.Counts (h ++ later) where
  next := by
    intro i
    rw [hnext, hs.next, History.installs_append, History.installs_eq_nil (hquiet i),
      List.append_nil]
  numbered := fun i => (hs.numbered i).append_of_quiet (hquiet i)

theorem install (hs : s.Counts h) (board : Nat) (handler : Callback τ)
    (hm : s'.manager = (s.manager.install board handler).2) :
    s'.Counts (h ++ match (s.manager.install board handler).1 with
      | .ok token => [.handlerInstalled board token handler]
      | .error _ => []) := by
  have haudience := audience?_install hm
  cases hb : s.manager.boards[board]? with
  | none =>
    rw [Manager.install_of_none hb]
    refine hs.of_quiet (fun i => ?_) fun _ _ ho => absurd ho List.not_mem_nil
    rw [nextToken, haudience, audienceWith_of_none hb, nextToken]
  | some b =>
    rw [Manager.install_of_board hb]
    have hboard := audience?_of_board hb
    have hnext : b.registry.next = (h.installs board).length := by
      rw [← hs.next, nextToken, hboard, Option.elim_some]
    constructor
    · intro i
      rw [nextToken, haudience, audienceWith, History.installs_append, History.installs_singleton,
        Occurrence.addition, List.length_append, ← hs.next, nextToken]
      by_cases hi : i = board
      · rw [if_pos hi, if_pos hi.symm, hi, hboard]
        rfl
      · rw [if_neg hi, if_neg (Ne.symm hi)]
        rfl
    · intro i
      by_cases hi : i = board
      · subst hi
        have hadd : (Occurrence.handlerInstalled i b.registry.next handler).addition i =
            [((h.installs i).length, handler)] := by
          rw [Occurrence.addition, if_pos rfl, hnext]
        exact (hs.numbered i).concat hadd
      · refine (hs.numbered i).append_of_quiet ?_
        intro o ho
        rw [List.mem_singleton.mp ho]
        exact if_neg (Ne.symm hi)

end Counts

theorem counts_step (net : Network) (hs : s.Counts h) (operation : Operation τ) :
    (s.step net operation).session.Counts (h ++ s.occurrences operation) := by
  cases hpolls : operation.polls with
  | true =>
    refine polls_induction (P := Counts) net hpolls
      (fun t k _ _ ht => ⟨ht.next, ht.numbered⟩) (fun t k ht => ?_) hs
    exact ht.of_quiet (nextToken_of_shift (shift_receive net t) rfl)
      fun i _ ho => addition_of_polled ho i
  | false =>
    have hshift := shift_step net s hpolls
    cases operation with
    | install board tag => exact hs.install board (.observer tag) rfl
    | attachSensor board =>
      exact hs.install board (.sensor s.sensors.length) (manager_attachSensor_eq s board)
    | _ =>
      exact hs.of_quiet (nextToken_of_shift hshift rfl)
        fun i _ ho => addition_of_occurrences rfl ho i

theorem counts_through (interface : Endpoint) (steps : List (Network × Operation τ)) :
    ((opened interface).through steps).Counts ((opened interface).history steps) :=
  history_induction (P := Counts) steps
    (fun _ _ net operation _ hs => counts_step net hs operation) (counts_opened interface)

/-! ## What the operations on a board's handlers do -/

section Board

variable {i : Nat} {b : Board (Callback τ)} (hb : s.manager.boards[i]? = some b)
include hb

theorem nextToken_of_board : s.nextToken i = b.registry.next := by
  rw [nextToken, audience?_of_board hb, Option.elim_some]

theorem outcome_install (net : Network) (tag : τ) :
    (s.step net (.install i tag)).outcome = .ok (.number (s.nextToken i)) := by
  rw [step, Manager.install_of_board hb, nextToken_of_board hb]
  rfl

theorem attached_sensor (net : Network) :
    ∃ x, (s.step net (.attachSensor i)).session.sensor? s.sensors.length = some x ∧
      x.board = i ∧ x.token = s.nextToken i := by
  let x : Sensor := { board := i, token := b.registry.next }
  simp only [step, attachSensor, Manager.install_of_board hb, nextToken_of_board hb]
  refine ⟨x, ?_, rfl, rfl⟩
  show ((s.sensors ++ [some x])[s.sensors.length]?).join = some x
  rw [List.getElem?_concat_length, Option.join_some]

theorem outcome_handlerCount (net : Network) :
    (s.step net (.handlerCount i)).outcome = .ok (.number b.registry.count) := by
  simp only [step, Manager.handlerCount, Manager.board, hb]
  rfl

theorem step_remove (net : Network) (token : Nat) :
    s.step net (.remove i token) =
      ⟨.ok (.flag (b.registry.contains token)), [],
        { s with manager := s.manager.setBoard i (b.remove token).2 }⟩ := by
  rw [step, Manager.remove_of_board hb]
  rfl

end Board

theorem manager_step_dropSensor {index : Nat} {x : Sensor} (hx : s.sensor? index = some x)
    {i : Nat}
    (hboard : x.board = i) (net : Network) :
    (s.step net (.dropSensor index)).session.manager =
      (s.step net (.remove i x.token)).session.manager := by
  subst hboard
  show (s.dropSensor index).manager = _
  simp only [dropSensor, hx]
  rfl

theorem events_of_board (hs : s.manager.Follows h) {i : Nat} {b : Board (Callback τ)}
    (hb : s.manager.boards[i]? = some b) {d : Datagram} {rest : List Datagram}
    (hqueued : s.manager.queued = d :: rest) (packet : Packet) :
    (s.manager.receive packet).events.filter Event.isDatagram =
      History.callsAmong (h.boards.take i) d ++
        ((if b.address = d.sender then
            (h.handlers i).map fun (_, handler) => .datagram handler (d.bytes.take packetCapacity)
          else []) ++
        History.callsAmong (h.boards.drop (i + 1)) d) := by
  have haddress : h.addresses[i]? = some b.address := by
    rw [hs.getElem?_addresses, hb, Option.map_some]
  rw [Manager.receive_of_queued hqueued, hs.reactions_eq hqueued, List.filter_append,
    h.filter_calls, h.filter_reports, List.append_nil, History.calls_of_board haddress]

/-- The handlers of a board at any point of any run.  The tokens that were given out count from
zero, and the next handler, an observer's or a sensor's, gets the next.  The handlers that were
installed and not removed since are there, in the order of their tokens.  Removing by a token
tells whether it has a handler; then this one is gone and the others keep their order, and
otherwise nothing changes.  Dropping a sensor removes by its token.  The count is how many were
installed less how often one was taken away.  A received datagram calls exactly the board's
handlers, in their order, if it is from the board's address, between the calls of the boards in
front and of those behind.  Short of 2 ^ 64 installations every token fits 64 bits. -/
theorem tokens_name_handlers (interface : Endpoint) (steps : List (Network × Operation τ))
    {i : Nat} {b : Board (Callback τ)}
    (hb : ((opened interface).through steps).manager.boards[i]? = some b) (net : Network) :
    let s := (opened interface).through steps
    let h := (opened interface).history steps
    let given := (h.installs i).length
    ((h.installs i).map Prod.fst = List.range given ∧
      (∀ tag, (s.step net (.install i tag)).outcome = .ok (.number given)) ∧
      ∃ x, (s.step net (.attachSensor i)).session.sensor? s.sensors.length = some x ∧
        x.board = i ∧ x.token = given) ∧
    (b.registry.installed = h.handlers i ∧ (h.handlers i).Pairwise fun x y => x.1 < y.1) ∧
    (∀ token, ∃ removed,
      (s.step net (.remove i token)).outcome = .ok (.flag removed) ∧
      (removed = true ↔ ∃ handler, (token, handler) ∈ h.handlers i) ∧
      (∀ front handler back, h.handlers i = front ++ (token, handler) :: back →
        (s.step net (.remove i token)).session =
          { s with
            manager := s.manager.setBoard i
              { b with registry := { b.registry with installed := front ++ back } } }) ∧
      (removed = false → (s.step net (.remove i token)).session = s)) ∧
    (∀ index x, s.sensor? index = some x → x.board = i →
      (s.step net (.dropSensor index)).session.manager =
        (s.step net (.remove i x.token)).session.manager) ∧
    ((s.step net (.handlerCount i)).outcome = .ok (.number b.registry.count) ∧
      b.registry.count + h.removals i = given) ∧
    (∀ d rest, s.manager.queued = d :: rest →
      (s.manager.receive s.inbox).events.filter Event.isDatagram =
        History.callsAmong (h.boards.take i) d ++
          ((if b.address = d.sender then
              (h.handlers i).map fun (_, handler) => .datagram handler (d.bytes.take packetCapacity)
            else []) ++
          History.callsAmong (h.boards.drop (i + 1)) d)) ∧
    (given ≤ 18446744073709551616 → ∀ entry ∈ h.installs i, entry.1 < 18446744073709551616) := by
  intro s h given
  have hs : s.manager.Follows h := follows_through interface steps
  have hcounts : s.Counts h := counts_through interface steps
  have hnumbered : h.Numbered i := hcounts.numbered i
  have hinstalled : b.registry.installed = h.handlers i := hs.installed_eq hb
  have hordered : b.registry.Ordered := by
    have hattached : s.Attached := 
      attached_through (attached_opened interface) steps
    exact hattached.ordered i b.address b.registry (audience?_of_board hb)
  have hnext : s.nextToken i = given := hcounts.next i
  refine ⟨⟨hnumbered, ?_, ?_⟩, ⟨hinstalled, hnumbered.pairwise_handlers⟩, ?_,
    fun index x hx hboard => manager_step_dropSensor hx hboard net,
    ⟨outcome_handlerCount hb net, ?_⟩, fun d rest hqueued => events_of_board hs hb hqueued s.inbox,
    ?_⟩
  · intro tag
    rw [outcome_install hb, hnext]
  · rw [← hnext]
    exact attached_sensor hb net
  · intro token
    rw [step_remove hb]
    refine ⟨b.registry.contains token, rfl, ?_, ?_, ?_⟩
    · rw [Registry.contains_iff, hinstalled]
    · intro front handler back hsplit
      rw [← hinstalled] at hsplit
      have hremoved := hordered.remove_eq hsplit
      have hboard : (b.remove token).2 =
          { b with registry := { b.registry with installed := front ++ back } } :=
        congrArg (fun registry => { b with registry }) hremoved
      rw [hboard]
    · intro hnone
      show { s with manager := s.manager.setBoard i (b.remove token).2 } = s
      rw [Manager.setBoard_remove_of_not_contains hb hnone]
  · rw [Registry.count, hinstalled]
    exact hnumbered.handlers_add_removals
  · intro hbound entry hentry
    exact Nat.lt_of_lt_of_le (hnumbered.lt_of_mem hentry) hbound

/-- The first board of the crowded run: of four handlers one is gone, a sensor's is there. -/
theorem tokens_name_handlers_crowdedRun :
    let steps := crowdedRun ++ [(sampleNetwork, .receive)]
    let s : Session Nat := (opened sampleInterface).through steps
    let remaining : List (Nat × Callback Nat) :=
      [(1, .observer 12), (2, .sensor 0), (3, .observer 14)]
    ∃ b, s.manager.boards[0]? = some b ∧ b.registry.installed = remaining ∧
      (s.step sampleNetwork (.install 0 15)).outcome = .ok (.number 4) ∧
      (s.step sampleNetwork (.handlerCount 0)).outcome = .ok (.number 3) ∧
      (s.step sampleNetwork (.remove 0 2)).outcome = .ok (.flag true) ∧
      (s.step sampleNetwork (.remove 0 2)).session =
        { s with
          manager := s.manager.setBoard 0
            { b with registry := ⟨[(1, .observer 12), (3, .observer 14)], b.registry.next⟩ } } ∧
      (s.step sampleNetwork (.remove 0 0)).outcome = .ok (.flag false) ∧
      (s.step sampleNetwork (.remove 0 0)).session = s := by
  intro steps s remaining
  have hsome : s.manager.boards[0]?.isSome = true := by decide +kernel
  obtain ⟨b, hb⟩ := Option.isSome_iff_exists.mp hsome
  let h : History (Callback Nat) := (opened sampleInterface).history steps
  have hremaining : h.handlers 0 = remaining := by decide +kernel
  have hgiven : (h.installs 0).length = 4 := by decide +kernel
  have hremovals : h.removals 0 = 1 := by decide +kernel
  obtain ⟨⟨-, hinstall, -⟩, ⟨hinstalled, -⟩, hremove, -, ⟨hcount, htotal⟩, -⟩ :=
    tokens_name_handlers sampleInterface steps hb sampleNetwork
  have hthree : b.registry.count = 3 := by
    change b.registry.count + h.removals 0 = (h.installs 0).length at htotal
    omega
  obtain ⟨there, hthere, hthere_iff, hgone, -⟩ := hremove 2
  obtain ⟨absent, habsent, habsent_iff, -, hsame⟩ := hremove 0
  have htrue : there = true := hthere_iff.mpr ⟨.sensor 0, by
    show (2, Callback.sensor 0) ∈ h.handlers 0
    rw [hremaining]
    decide⟩
  have hfalse : absent = false := by
    apply Bool.eq_false_iff.mpr
    intro hfound
    obtain ⟨handler, hmem⟩ := habsent_iff.mp hfound
    have hnone : (0 : Nat) ∉ remaining.map Prod.fst := by decide
    exact hnone (List.mem_map_of_mem (hremaining ▸ hmem))
  refine ⟨b, hb, hinstalled.trans hremaining, ?_, ?_, ?_, ?_, ?_, ?_⟩
  · rw [hinstall]
    exact congrArg (fun n => Except.ok (Reply.number n)) hgiven
  · rw [hcount, hthree]
  · rw [hthere, htrue]
  · exact hgone [(1, .observer 12)] (.sensor 0) [(3, .observer 14)] hremaining
  · rw [habsent, hfalse]
  · exact hsame hfalse

end Session
end WrenchLink

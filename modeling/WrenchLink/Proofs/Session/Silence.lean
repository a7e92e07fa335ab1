/-
Exactly the silent boards are reported.

A receive that takes a datagram first calls the datagram's handlers and then reports the
boards that are silent by the history, in the order of their indices.  Time passes where the
history says so; a board has been shown when a datagram came from its address or when the
timeout handler was installed, and a new board counts as shown until time passes.

A receive that finds nothing reports that there is no traffic, and no board.
-/
import WrenchLink.Proofs.Session.Demultiplexing

namespace WrenchLink
namespace Session

variable {τ : Type}

/-- Every receive at every point of a run.  `ids` are the boards that it reports. -/
theorem receive_reports_silent (interface : Endpoint) (steps : List (Network × Operation τ))
    (packet : Packet) :
    let s := (opened interface).through steps
    let h := (opened interface).history steps
    let r := s.manager.receive packet
    match s.manager.queued with
    | d :: _ =>
      let taken := h ++ [.received d]
      ∃ ids : List Nat,
        r.events = h.calls d ++ h.reports ids ∧
          ids.Pairwise (· < ·) ∧
          (∀ i, i ∈ ids ↔ History.Silent taken i) ∧
          (∀ i, h.addresses[i]? = some d.sender → i ∉ ids) ∧
          (d.sender ∉ h.addresses → ∀ i, i ∈ ids ↔ h.Silent i) ∧
          ∀ i ∈ ids, ∀ address, h.addresses[i]? = some address → ∀ later : History (Callback τ),
            (∀ o ∈ later, o.shows address = false) → History.Silent (taken ++ later) i
    | [] =>
      if s.manager.isBound then
        r.outcome = .error .recvTimeout ∧ r.events = h.reports [noTrafficBoard]
      else r.outcome = .error .notBound ∧ r.events = [] := by
  intro s h r
  have hs : s.manager.Follows h := follows_through interface steps
  cases hqueued : s.manager.queued with
  | nil =>
    have hr : r = _ := Manager.receive_of_queued_nil hqueued packet
    have hnotify := hs.notify_eq [noTrafficBoard]
    rw [List.flatMap_singleton] at hnotify
    rw [← hnotify]
    cases hbound : s.manager.isBound with
    | true =>
      rw [hbound, if_pos rfl] at hr
      rw [hr]
      exact ⟨rfl, rfl⟩
    | false =>
      rw [hbound, if_neg Bool.false_ne_true] at hr
      rw [hr]
      exact ⟨rfl, rfl⟩
  | cons d rest =>
    have hr : r = _ := Manager.receive_of_queued hqueued packet
    have htaken := hs.afterTaking hqueued
    have hmem := htaken.mem_silentBoards_iff
    refine ⟨(s.manager.afterTaking d).silentBoards, ?_, Manager.pairwise_silentBoards _, hmem,
      ?_, ?_, ?_⟩
    · rw [hr]
      exact hs.reactions_eq hqueued
    · intro i hsender hi
      rw [hmem, History.silent_concat] at hi
      obtain ⟨address, haddress, hpassed | ⟨-, hshows⟩⟩ := hi
      · cases hpassed
      · rw [hsender, Option.some.injEq] at haddress
        exact beq_eq_false_iff_ne.mp hshows haddress
    · intro hunknown i
      rw [hmem, History.silent_concat]
      constructor
      · rintro ⟨_, _, hpassed | ⟨hsilent, -⟩⟩
        · cases hpassed
        · exact hsilent
      · intro hsilent
        obtain ⟨address, haddress⟩ := hsilent.exists_address
        have hother : d.sender ≠ address := by
          rintro rfl
          exact hunknown (List.mem_of_getElem? haddress)
        exact ⟨address, haddress, Or.inr ⟨hsilent, beq_eq_false_iff_ne.mpr hother⟩⟩
    · intro i hi address haddress later hquiet
      exact ((hmem i).mp hi).append (History.getElem?_addresses_append haddress _) hquiet

/-- Time has passed for the first three boards and not for the fourth, and the first and the
third share the address that the waiting datagram comes from. -/
def watchedRun : List (Network × Operation Nat) := within sampleNetwork
  [.addBoard (sampleBoard 1), .addBoard (sampleBoard 2), .addBoard (sampleBoard 1), .bind,
    .installTimeoutHandler 20, .install 0 10, .timePasses, .installTimeoutHandler 21,
    .receive, .addBoard (sampleBoard 3), .datagramArrives ⟨⟨192, 168, 1, 1⟩, [7]⟩]

theorem receive_reports_silent_watchedRun :
    let s : Session Nat := (opened sampleInterface).through watchedRun
    let h := (opened sampleInterface).history watchedRun
    s.manager.queued = [⟨⟨192, 168, 1, 1⟩, [7]⟩] ∧
      (s.manager.receive s.inbox).events =
        [.datagram (.observer 10) [7], .silent (.observer 21) 1] ∧
      (∀ i, History.Silent (h ++ [.received ⟨⟨192, 168, 1, 1⟩, [7]⟩]) i ↔ i = 1) := by
  intro s h
  have hqueued : ((opened sampleInterface).through watchedRun).manager.queued =
      [⟨⟨192, 168, 1, 1⟩, [7]⟩] := by decide +kernel
  have hevents : (s.manager.receive s.inbox).events =
      [.datagram (.observer 10) [7], .silent (.observer 21) 1] := by decide +kernel
  have hreport := receive_reports_silent sampleInterface watchedRun s.inbox
  simp only [hqueued] at hreport
  obtain ⟨ids, hcalls, -, hsilent, -⟩ := hreport
  have hids : ids.map (Event.silent (Callback.observer 21)) = [.silent (.observer 21) 1] :=
    List.append_cancel_left (hcalls.symm.trans hevents)
  refine ⟨hqueued, hevents, fun i => ?_⟩
  rw [← hsilent]
  obtain ⟨id, hid, heq⟩ := List.map_eq_singleton_iff.mp hids
  cases heq
  rw [hid, List.mem_singleton]

end Session
end WrenchLink

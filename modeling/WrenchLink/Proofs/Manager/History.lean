/-
What has happened to a manager, and what can be read off that alone.

A history lists occurrences, oldest first.  It tells which boards there are and which
handlers each of them has (`boards`), which datagrams came and which were taken (`arrivals`,
`receptions`), and which boards are silent (`Silent`).  None of these looks at a manager: a
handler is there if it was installed and not removed later, and a board is silent if, since
some stretch of time passed, nothing has shown it.

Histories grow at their end, while `handlers` looks ahead from each installation.  So every
reading comes with the equation for one more occurrence: `handlers_concat`, `silent_concat`.
-/
import WrenchLink.Manager.Basic

namespace WrenchLink

inductive Occurrence (η : Type) where
  | boardAdded (address : Address)
  | handlerInstalled (board token : Nat) (handler : η)
  | handlerRemoved (board token : Nat)
  | timeoutHandlerInstalled (handler : η)
  | arrived (datagram : Datagram)
  | received (datagram : Datagram)
  /-- A stretch of time that outlasts any timeout. -/
  | timePassed
  deriving DecidableEq, Repr

namespace Occurrence

variable {η : Type}

def address? : Occurrence η → Option Address
  | boardAdded address => some address
  | _ => none

def arrival? : Occurrence η → Option Datagram
  | arrived d => some d
  | _ => none

def reception? : Occurrence η → Option Datagram
  | received d => some d
  | _ => none

def timeoutHandler? : Occurrence η → Option η
  | timeoutHandlerInstalled handler => some handler
  | _ => none

/-- The handler that the occurrence adds to a board's, with its token. -/
def addition (board : Nat) : Occurrence η → List (Nat × η)
  | handlerInstalled b token handler => if b = board then [(token, handler)] else []
  | _ => []

def removes (board token : Nat) : Occurrence η → Bool
  | handlerRemoved b t => b == board && token == t
  | _ => false

/-- Whether the boards at an address count as just seen. -/
def shows (address : Address) : Occurrence η → Bool
  | timeoutHandlerInstalled _ => true
  | received d => d.sender == address
  | _ => false

end Occurrence

def Event.isDatagram {η : Type} : Event η → Bool
  | datagram _ _ => true
  | silent _ _ => false

/-- What has happened, oldest first. -/
abbrev History (η : Type) := List (Occurrence η)

namespace History

variable {η : Type}

def addresses (h : History η) : List Address := h.filterMap Occurrence.address?

def arrivals (h : History η) : List Datagram := h.filterMap Occurrence.arrival?

def receptions (h : History η) : List Datagram := h.filterMap Occurrence.reception?

def timeoutHandler? (h : History η) : Option η :=
  (h.filterMap Occurrence.timeoutHandler?).getLast?

/-- The handlers of a board with their tokens, in the order of installation: those that were
installed and not removed later. -/
def handlers (board : Nat) : History η → List (Nat × η)
  | [] => []
  | o :: later =>
    (o.addition board).filter (fun entry => !later.any (·.removes board entry.1)) ++
      handlers board later

/-- The boards in the order of their indices, each with its address and its handlers. -/
def boards (h : History η) : List (Address × List (Nat × η)) :=
  h.addresses.mapIdx fun i address => (address, h.handlers i)

/-- The calls that a datagram is due: all handlers of each board at its sender's address. -/
def calls (h : History η) (d : Datagram) : List (Event η) :=
  (h.boards.filter fun (address, _) => address = d.sender).flatMap fun (_, installed) =>
    installed.map fun (_, handler) => .datagram handler (d.bytes.take packetCapacity)

def reports (h : History η) (ids : List Nat) : List (Event η) :=
  match h.timeoutHandler? with
  | some handler => ids.map (.silent handler)
  | none => []

/-- The board was there when some stretch of time passed, and nothing has shown it since. -/
def Silent (h : History η) (board : Nat) : Prop :=
  ∃ earlier later address, h = earlier ++ .timePassed :: later ∧
    (addresses earlier)[board]? = some address ∧ ∀ o ∈ later, o.shows address = false

theorem filter_calls (h : History η) (d : Datagram) :
    (h.calls d).filter Event.isDatagram = h.calls d := by
  rw [List.filter_eq_self]
  intro e he
  obtain ⟨board, -, he⟩ := List.mem_flatMap.mp he
  obtain ⟨entry, -, rfl⟩ := List.mem_map.mp he
  rfl

theorem filter_reports (h : History η) (ids : List Nat) :
    (h.reports ids).filter Event.isDatagram = [] := by
  rw [List.filter_eq_nil_iff, reports]
  cases h.timeoutHandler? with
  | none => exact fun e he => absurd he List.not_mem_nil
  | some handler =>
    intro e he
    obtain ⟨id, -, rfl⟩ := List.mem_map.mp he
    exact Bool.false_ne_true

theorem calls_eq_nil {h : History η} {d : Datagram} (hunknown : d.sender ∉ h.addresses) :
    h.calls d = [] := by
  have hnone : h.boards.filter (fun (address, _) => address = d.sender) = [] := by
    rw [List.filter_eq_nil_iff]
    intro board hboard hsender
    obtain ⟨i, hi, rfl⟩ := List.mem_mapIdx.mp hboard
    exact hunknown (of_decide_eq_true hsender ▸ List.getElem_mem hi)
  rw [calls, hnone, List.flatMap_nil]

/-! ## One more occurrence -/

theorem addresses_concat (h : History η) (o : Occurrence η) :
    addresses (h ++ [o]) = h.addresses ++ o.address?.toList := by
  rw [addresses, List.filterMap_append, addresses]
  cases o <;> rfl

theorem arrivals_concat (h : History η) (o : Occurrence η) :
    arrivals (h ++ [o]) = h.arrivals ++ o.arrival?.toList := by
  rw [arrivals, List.filterMap_append, arrivals]
  cases o <;> rfl

theorem receptions_concat (h : History η) (o : Occurrence η) :
    receptions (h ++ [o]) = h.receptions ++ o.reception?.toList := by
  rw [receptions, List.filterMap_append, receptions]
  cases o <;> rfl

theorem timeoutHandler?_concat (h : History η) (o : Occurrence η) :
    timeoutHandler? (h ++ [o]) = o.timeoutHandler?.or h.timeoutHandler? := by
  rw [timeoutHandler?, List.filterMap_append, List.getLast?_append, timeoutHandler?]
  cases o <;> rfl

theorem handlers_concat (h : History η) (o : Occurrence η) (board : Nat) :
    handlers board (h ++ [o]) =
      (h.handlers board).filter (fun entry => !o.removes board entry.1) ++
        o.addition board := by
  induction h with
  | nil => simp [handlers]
  | cons first later ih =>
    have hsplit : ∀ token, (later ++ [o]).any (·.removes board token) =
        (later.any (·.removes board token) || o.removes board token) := by
      intro token
      rw [List.any_append, List.any_cons, List.any_nil, Bool.or_false]
    rw [List.cons_append, handlers, handlers, ih, List.filter_append, List.filter_filter,
      List.append_assoc]
    simp only [hsplit, Bool.not_or, Bool.and_comm]

theorem handlers_concat_of_not_removes {h : History η} {o : Occurrence η} {board : Nat}
    (hkeep : ∀ token, o.removes board token = false) :
    handlers board (h ++ [o]) = h.handlers board ++ o.addition board := by
  rw [handlers_concat, List.filter_eq_self.mpr]
  intro entry _
  rw [hkeep entry.1]
  rfl

theorem boards_concat_of_quiet (h : History η) {o : Occurrence η} (haddress : o.address? = none)
    (hadd : ∀ board, o.addition board = [])
    (hkeep : ∀ board token, o.removes board token = false) : boards (h ++ [o]) = h.boards := by
  have hhandlers : ∀ board, handlers board (h ++ [o]) = h.handlers board := by
    intro board
    rw [handlers_concat_of_not_removes (hkeep board), hadd board, List.append_nil]
  rw [boards, addresses_concat, haddress, Option.toList_none, List.append_nil]
  simp only [hhandlers]
  rfl

theorem getElem?_addresses_append {h : History η} {board : Nat} {address : Address}
    (hboard : h.addresses[board]? = some address) (later : History η) :
    (addresses (h ++ later))[board]? = some address := by
  obtain ⟨hlt, -⟩ := List.getElem?_eq_some_iff.mp hboard
  rw [addresses, List.filterMap_append]
  exact (List.getElem?_append_left hlt).trans hboard

theorem silent_concat (h : History η) (o : Occurrence η) (board : Nat) :
    Silent (h ++ [o]) board ↔
      ∃ address, h.addresses[board]? = some address ∧
        (o = .timePassed ∨ h.Silent board ∧ o.shows address = false) := by
  constructor
  · rintro ⟨earlier, later, address, hsplit, hboard, hquiet⟩
    -- The last occurrence is the stretch of time itself or lies behind it.
    rcases List.eq_nil_or_concat later with rfl | ⟨before, last, hlater⟩
    · obtain ⟨rfl, hlast⟩ := List.append_inj' hsplit rfl
      exact ⟨address, hboard, Or.inl (List.singleton_inj.mp hlast)⟩
    · rw [List.concat_eq_append] at hlater
      subst hlater
      have hassoc : h ++ [o] = (earlier ++ .timePassed :: before) ++ [last] := by
        rw [hsplit, List.append_assoc, List.cons_append]
      obtain ⟨rfl, hlast⟩ := List.append_inj' hassoc rfl
      obtain rfl := List.singleton_inj.mp hlast
      refine ⟨address, getElem?_addresses_append hboard _, Or.inr ⟨?_, ?_⟩⟩
      · exact ⟨earlier, before, address, rfl, hboard,
          fun x hx => hquiet x (List.mem_append_left _ hx)⟩
      · exact hquiet o (List.mem_append_right _ List.mem_cons_self)
  · rintro ⟨address, hboard, rfl | ⟨⟨earlier, later, other, rfl, hother, hquiet⟩, hshows⟩⟩
    · exact ⟨h, [], address, rfl, hboard, nofun⟩
    · have hsame := getElem?_addresses_append hother (.timePassed :: later)
      rw [hboard, Option.some.injEq] at hsame
      subst hsame
      refine ⟨earlier, later ++ [o], address, by rw [List.append_assoc, List.cons_append],
        hother, ?_⟩
      intro x hx
      rcases List.mem_append.mp hx with hx | hx
      · exact hquiet x hx
      · rw [List.mem_singleton.mp hx]
        exact hshows

theorem Silent.exists_address {h : History η} {board : Nat} (hsilent : h.Silent board) :
    ∃ address, h.addresses[board]? = some address := by
  obtain ⟨earlier, later, address, rfl, hboard, -⟩ := hsilent
  exact ⟨address, getElem?_addresses_append hboard _⟩

theorem silent_concat_of_not_shows {h : History η} {o : Occurrence η} (htime : o ≠ .timePassed)
    (hshows : ∀ address, o.shows address = false) (board : Nat) :
    Silent (h ++ [o]) board ↔ h.Silent board := by
  rw [silent_concat]
  constructor
  · rintro ⟨address, -, rfl | ⟨hsilent, -⟩⟩
    · exact absurd rfl htime
    · exact hsilent
  · intro hsilent
    obtain ⟨address, hboard⟩ := hsilent.exists_address
    exact ⟨address, hboard, Or.inr ⟨hsilent, hshows address⟩⟩

/-- A silent board stays silent until something shows it. -/
theorem Silent.append {h : History η} {board : Nat} {address : Address}
    (hsilent : h.Silent board) (hboard : h.addresses[board]? = some address)
    {later : History η} (hquiet : ∀ o ∈ later, o.shows address = false) :
    Silent (h ++ later) board := by
  obtain ⟨earlier, before, other, rfl, hother, hbefore⟩ := hsilent
  have hsame := getElem?_addresses_append hother (.timePassed :: before)
  rw [hboard, Option.some.injEq] at hsame
  subst hsame
  refine ⟨earlier, before ++ later, address, by simp, hother, ?_⟩
  intro o ho
  rcases List.mem_append.mp ho with ho | ho
  · exact hbefore o ho
  · exact hquiet o ho

end History
end WrenchLink

/-
Handlers and how often they came and went, as a history tells it.

`installs` lists what was ever installed on a board and `removals` counts how often a handler
was really taken away.  If the tokens of the installations count from zero, which `Numbered`
says, then a board's handlers stand in the order of their tokens, and there are as many of them
as installations less removals: `Numbered.pairwise_handlers`, `Numbered.handlers_add_removals`.
-/
import Mathlib.Data.List.Induction
import WrenchLink.Proofs.Manager.History

namespace WrenchLink

variable {η : Type}

theorem Occurrence.eq_of_removes {o : Occurrence η} {board t t' : Nat}
    (h : o.removes board t = true) (h' : o.removes board t' = true) : t = t' := by
  cases o with
  | handlerRemoved b token =>
    rw [removes, Bool.and_eq_true, beq_iff_eq, beq_iff_eq] at h h'
    exact h.2.trans h'.2.symm
  | _ => cases h

/-- Taking out of a list of numbered entries those of a number takes out one or none. -/
theorem length_filter_add_any {α : Type} (gone : Nat → Bool)
    (hsingle : ∀ t t', gone t = true → gone t' = true → t = t') {entries : List (Nat × α)}
    (hincreasing : entries.Pairwise fun x y => x.1 < y.1) :
    (entries.filter fun entry => !gone entry.1).length +
        (if entries.any fun entry => gone entry.1 then 1 else 0) = entries.length := by
  induction entries with
  | nil => rfl
  | cons first rest ih =>
    obtain ⟨hfirst, hrest⟩ := List.pairwise_cons.mp hincreasing
    by_cases hgone : gone first.1 = true
    · have hkept : ∀ entry ∈ rest, gone entry.1 = false := by
        intro entry hentry
        apply Bool.eq_false_iff.mpr
        intro hother
        exact Nat.ne_of_lt (hfirst entry hentry) (hsingle _ _ hgone hother)
      have hall : rest.filter (fun entry => !gone entry.1) = rest := by
        rw [List.filter_eq_self]
        intro entry hentry
        rw [hkept entry hentry]
        rfl
      rw [List.filter_cons_of_neg (by rw [hgone]; exact Bool.false_ne_true), hall, List.any_cons,
        hgone, Bool.true_or, if_pos rfl, List.length_cons]
    · have hkeep : gone first.1 = false := Bool.eq_false_iff.mpr hgone
      have hlater := ih hrest
      rw [List.filter_cons_of_pos (by rw [hkeep]; rfl), List.any_cons, hkeep, Bool.false_or,
        List.length_cons, List.length_cons]
      omega

namespace History

/-- All that was ever installed on a board, with the tokens that were given out. -/
def installs (board : Nat) (h : History η) : List (Nat × η) := h.flatMap (·.addition board)

/-- Whether the next occurrence would take one of a board's handlers away. -/
def loses (board : Nat) (h : History η) (o : Occurrence η) : Bool :=
  (h.handlers board).any fun entry => o.removes board entry.1

/-- How often one of a board's handlers was taken away.  Removing what is not there does not
count. -/
def removals (board : Nat) (h : History η) : Nat :=
  (List.range h.length).countP fun k => h[k]?.any (loses board (h.take k))

/-- The tokens that were given out on a board count from zero. -/
def Numbered (h : History η) (board : Nat) : Prop :=
  (h.installs board).map Prod.fst = List.range (h.installs board).length

/-- The calls that a datagram is due among some of the boards. -/
def callsAmong (boards : List (Address × List (Nat × η))) (d : Datagram) : List (Event η) :=
  (boards.filter fun (address, _) => address = d.sender).flatMap fun (_, installed) =>
    installed.map fun (_, handler) => .datagram handler (d.bytes.take packetCapacity)

theorem calls_eq (h : History η) (d : Datagram) : h.calls d = callsAmong h.boards d := rfl

theorem callsAmong_append (boards others : List (Address × List (Nat × η))) (d : Datagram) :
    callsAmong (boards ++ others) d = callsAmong boards d ++ callsAmong others d := by
  rw [callsAmong, List.filter_append, List.flatMap_append, callsAmong, callsAmong]

theorem callsAmong_singleton (address : Address) (installed : List (Nat × η)) (d : Datagram) :
    callsAmong [(address, installed)] d =
      if address = d.sender then
        installed.map fun (_, handler) => .datagram handler (d.bytes.take packetCapacity)
      else [] := by
  by_cases hsender : address = d.sender
  · rw [if_pos hsender, callsAmong, List.filter_cons_of_pos (by simpa using hsender),
      List.filter_nil, List.flatMap_singleton]
  · rw [if_neg hsender, callsAmong, List.filter_cons_of_neg (by simpa using hsender),
      List.filter_nil, List.flatMap_nil]

/-- The calls of one board stand between those of the boards around it. -/
theorem calls_of_board {h : History η} {i : Nat} {address : Address}
    (hboard : h.addresses[i]? = some address) (d : Datagram) :
    h.calls d = callsAmong (h.boards.take i) d ++
      ((if address = d.sender then
          (h.handlers i).map fun (_, handler) => .datagram handler (d.bytes.take packetCapacity)
        else []) ++
      callsAmong (h.boards.drop (i + 1)) d) := by
  have hentry : h.boards[i]? = some (address, h.handlers i) := by
    rw [boards, List.getElem?_mapIdx, hboard, Option.map_some]
  obtain ⟨hlt, hget⟩ := List.getElem?_eq_some_iff.mp hentry
  have hsplit : h.boards = h.boards.take i ++ ([h.boards[i]] ++ h.boards.drop (i + 1)) := by
    rw [List.singleton_append, List.getElem_cons_drop, List.take_append_drop]
  rw [calls_eq, ← callsAmong_singleton, ← callsAmong_append, ← callsAmong_append, ← hget, ← hsplit]

theorem installs_append (h later : History η) (board : Nat) :
    installs board (h ++ later) = h.installs board ++ installs board later :=
  List.flatMap_append

theorem installs_singleton (board : Nat) (o : Occurrence η) :
    installs board [o] = o.addition board :=
  List.flatMap_singleton _ o

theorem installs_eq_nil {h : History η} {board : Nat} (hnone : ∀ o ∈ h, o.addition board = []) :
    h.installs board = [] :=
  List.flatMap_eq_nil_iff.mpr hnone

theorem removals_concat (h : History η) (o : Occurrence η) (board : Nat) :
    removals board (h ++ [o]) = h.removals board + if h.loses board o then 1 else 0 := by
  have hbefore : (List.range h.length).countP
        (fun k => (h ++ [o])[k]?.any (loses board ((h ++ [o]).take k))) = h.removals board := by
    apply List.countP_congr
    intro k hk
    have hlt : k < h.length := List.mem_range.mp hk
    rw [List.getElem?_append_left hlt, List.take_append_of_le_length (Nat.le_of_lt hlt)]
  have hlast : (h ++ [o])[h.length]?.any (loses board ((h ++ [o]).take h.length)) =
      h.loses board o := by
    rw [List.getElem?_concat_length, List.take_left, Option.any_some]
  rw [removals, List.length_append, List.length_singleton, List.range_succ, List.countP_append,
    hbefore, List.countP_singleton, hlast]

/-- Handlers that are there were installed, in the same order. -/
theorem handlers_sublist_installs (h : History η) (board : Nat) :
    (h.handlers board).Sublist (h.installs board) := by
  induction h with
  | nil => exact .slnil
  | cons o later ih => exact List.filter_sublist.append ih

namespace Numbered

variable {h : History η} {board : Nat}

theorem of_nil : Numbered ([] : History η) board := rfl

theorem append_of_quiet (hn : h.Numbered board) {later : History η}
    (hquiet : ∀ o ∈ later, o.addition board = []) : Numbered (h ++ later) board := by
  rw [Numbered, installs_append, installs_eq_nil hquiet, List.append_nil]
  exact hn

theorem concat (hn : h.Numbered board) {o : Occurrence η} {handler : η}
    (hadd : o.addition board = [((h.installs board).length, handler)]) :
    Numbered (h ++ [o]) board := by
  rw [Numbered, installs_append, installs_singleton, hadd, List.map_append, hn,
    List.length_append, List.length_singleton, List.range_succ, List.map_singleton]

theorem of_append {later : History η} (hn : Numbered (h ++ later) board) : h.Numbered board := by
  have hfront := congrArg (List.take (h.installs board).length) hn
  rw [installs_append, List.map_append, List.take_left' (List.length_map _), List.take_range,
    List.length_append, Nat.min_eq_left (Nat.le_add_right _ _)] at hfront
  exact hfront

theorem pairwise_installs (hn : h.Numbered board) :
    (h.installs board).Pairwise fun x y => x.1 < y.1 := by
  have hrange := List.pairwise_lt_range (n := (h.installs board).length)
  rw [← hn] at hrange
  exact List.pairwise_map.mp hrange

theorem pairwise_handlers (hn : h.Numbered board) :
    (h.handlers board).Pairwise fun x y => x.1 < y.1 :=
  hn.pairwise_installs.sublist (h.handlers_sublist_installs board)

theorem lt_of_mem (hn : h.Numbered board) {entry : Nat × η} (hentry : entry ∈ h.installs board) :
    entry.1 < (h.installs board).length := by
  have hmem : entry.1 ∈ (h.installs board).map Prod.fst := List.mem_map_of_mem hentry
  rw [hn] at hmem
  exact List.mem_range.mp hmem

theorem handlers_add_removals (hn : h.Numbered board) :
    (h.handlers board).length + h.removals board = (h.installs board).length := by
  induction h using List.reverseRecOn with
  | nil => rfl
  | append_singleton before o ih =>
    have hbefore := hn.of_append
    have hcount := ih hbefore
    have hlost := length_filter_add_any (o.removes board)
      (fun _ _ => Occurrence.eq_of_removes) hbefore.pairwise_handlers
    rw [handlers_concat, removals_concat, installs_append, List.length_append, List.length_append,
      installs_singleton, loses]
    omega

end Numbered

end History
end WrenchLink

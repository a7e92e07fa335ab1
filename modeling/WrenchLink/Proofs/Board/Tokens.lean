/-
Tokens name handlers.

In an ordered registry the tokens increase in the order of installation and are all below
the next one.  So no two handlers share a token, a new handler's token is no earlier one's,
and removing by a token takes out one handler and leaves the rest in order.
-/
import WrenchLink.Board.Registry

namespace WrenchLink
namespace Registry

variable {η : Type} {r : Registry η}

structure Ordered (r : Registry η) : Prop where
  increasing : r.installed.Pairwise fun x y => x.1 < y.1
  below : ∀ entry ∈ r.installed, entry.1 < r.next

theorem ordered_empty : ({} : Registry η).Ordered := ⟨List.Pairwise.nil, nofun⟩

theorem Ordered.install (hr : r.Ordered) (handler : η) : (r.install handler).2.Ordered where
  increasing := by
    rw [Registry.install, List.pairwise_append]
    refine ⟨hr.increasing, List.pairwise_singleton _ _, fun x hx y hy => ?_⟩
    rw [List.mem_singleton.mp hy]
    exact hr.below x hx
  below := by
    intro entry hentry
    rcases List.mem_append.mp hentry with hentry | hentry
    · exact Nat.lt_succ_of_lt (hr.below entry hentry)
    · rw [List.mem_singleton.mp hentry]
      exact Nat.lt_succ_self r.next

theorem Ordered.remove (hr : r.Ordered) (token : Nat) : (r.remove token).2.Ordered where
  increasing := hr.increasing.filter _
  below := fun entry hentry => hr.below entry (List.mem_filter.mp hentry).1

theorem mem_remove {token : Nat} {entry : Nat × η} :
    entry ∈ (r.remove token).2.installed ↔ entry ∈ r.installed ∧ entry.1 ≠ token := by
  rw [remove, List.mem_filter, bne_iff_ne]

/-- No two handlers share a token. -/
theorem Ordered.ne_of_mem (hr : r.Ordered) {token : Nat} {handler : η} {front back : List (Nat × η)}
    (hsplit : r.installed = front ++ (token, handler) :: back) :
    ∀ entry ∈ front ++ back, entry.1 ≠ token := by
  have hincreasing := hr.increasing
  rw [hsplit, List.pairwise_append, List.pairwise_cons] at hincreasing
  obtain ⟨-, ⟨hback, -⟩, hfront⟩ := hincreasing
  intro entry hentry
  rcases List.mem_append.mp hentry with hentry | hentry
  · exact Nat.ne_of_lt (hfront entry hentry (token, handler) List.mem_cons_self)
  · exact Nat.ne_of_gt (hback entry hentry)

/-- Removing by a token takes out the one handler that has it. -/
theorem Ordered.remove_eq (hr : r.Ordered) {token : Nat} {handler : η} {front back : List (Nat × η)}
    (hsplit : r.installed = front ++ (token, handler) :: back) :
    (r.remove token).2 = { r with installed := front ++ back } := by
  have hkeep : (front ++ back).filter (fun entry => entry.1 != token) = front ++ back := by
    rw [List.filter_eq_self]
    intro entry hentry
    exact bne_iff_ne.mpr (hr.ne_of_mem hsplit entry hentry)
  have hgone : ((token, handler) :: back).filter (fun entry => entry.1 != token) =
      back.filter (fun entry => entry.1 != token) := List.filter_cons_of_neg (by simp)
  have hinstalled : r.installed.filter (fun entry => entry.1 != token) = front ++ back := by
    rw [List.filter_append] at hkeep
    rw [hsplit, List.filter_append, hgone, hkeep]
  exact congrArg (fun installed => { r with installed }) hinstalled

end Registry
end WrenchLink

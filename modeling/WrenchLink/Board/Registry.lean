/-
The handlers that observe a board's datagrams.

Every installation gets the next token, counted from zero, and a token is never given
out twice, whether or not its handler is still there.  Handlers run in the order of
their installation.
-/

namespace WrenchLink

structure Registry (η : Type) where
  /-- The installed handlers with their tokens, in the order of installation. -/
  installed : List (Nat × η) := []
  next : Nat := 0
  deriving DecidableEq, Repr

namespace Registry

variable {η : Type}

instance : Inhabited (Registry η) := ⟨{}⟩

def install (r : Registry η) (handler : η) : Nat × Registry η :=
  (r.next, { installed := r.installed ++ [(r.next, handler)], next := r.next + 1 })

def contains (r : Registry η) (token : Nat) : Bool := r.installed.any fun (t, _) => t == token

def remove (r : Registry η) (token : Nat) : Bool × Registry η :=
  (r.contains token, { r with installed := r.installed.filter fun (t, _) => t != token })

def count (r : Registry η) : Nat := r.installed.length

def handlers (r : Registry η) : List η := r.installed.map Prod.snd

theorem remove_of_not_contains {r : Registry η} {token : Nat} (h : r.contains token = false) :
    (r.remove token).2 = r := by
  rw [contains, List.any_eq_false] at h
  rw [remove, List.filter_eq_self.mpr]
  intro entry hmem
  simpa using h entry hmem

end Registry
end WrenchLink

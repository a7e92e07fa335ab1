/-
The values of a document.

The fields of a date-time are checked when it is read and then forgotten, since no
setting is one.
-/
import WrenchLink.Number.Binary

namespace WrenchLink
namespace Toml

inductive Value where
  | string (text : String)
  | integer (n : Int)
  | float (x : Binary64)
  | boolean (b : Bool)
  | dateTime
  | array (elements : List Value)
  | table (entries : List (String × Value))
  deriving Repr, Inhabited

def lookup {α : Type} (key : String) : List (String × α) → Option α
  | [] => none
  | (k, a) :: rest => if k = key then some a else lookup key rest

/-- The entries with the value under a key replaced, where there is one. -/
def replace {α : Type} (key : String) (a : α) : List (String × α) → List (String × α)
  | [] => []
  | (k, b) :: rest => if k = key then (k, a) :: rest else (k, b) :: replace key a rest

theorem lookup_append {α : Type} (key : String) (xs ys : List (String × α)) :
    lookup key (xs ++ ys) = (lookup key xs).or (lookup key ys) := by
  induction xs with
  | nil => rfl
  | cons x xs ih =>
    rw [List.cons_append, lookup, lookup]
    by_cases h : x.1 = key
    · rw [if_pos h, if_pos h, Option.some_or]
    · rw [if_neg h, if_neg h, ih]

theorem keys_replace {α : Type} (key : String) (a : α) (xs : List (String × α)) :
    (replace key a xs).map Prod.fst = xs.map Prod.fst := by
  induction xs with
  | nil => rfl
  | cons x xs ih =>
    rw [replace]
    by_cases h : x.1 = key
    · rw [if_pos h, List.map_cons, List.map_cons]
    · rw [if_neg h, List.map_cons, List.map_cons, ih]

end Toml
end WrenchLink

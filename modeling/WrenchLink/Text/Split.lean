/-
Texts cut at a separator, and the numbers that digits write.
-/

namespace WrenchLink
namespace Text

/-- The pieces of a text between its separators; there is always at least one. -/
def split (separator : Char) : List Char → List (List Char)
  | [] => [[]]
  | ch :: rest =>
    if ch = separator then [] :: split separator rest
    else match split separator rest with
      | [] => [[ch]]
      | piece :: more => (ch :: piece) :: more

/-- The value of an ASCII digit or letter as a digit: letters of either case go on from
ten. -/
def digitValue? (ch : Char) : Option Nat :=
  if '0' ≤ ch ∧ ch ≤ '9' then some (ch.toNat - '0'.toNat)
  else if 'a' ≤ ch ∧ ch ≤ 'z' then some (ch.toNat - 'a'.toNat + 10)
  else if 'A' ≤ ch ∧ ch ≤ 'Z' then some (ch.toNat - 'A'.toNat + 10)
  else none

def digit? (base : Nat) (ch : Char) : Option Nat :=
  (digitValue? ch).filter (· < base)

/-- The number that digits of a base write, most significant first. -/
def digitsValue (base : Nat) (digits : List Nat) : Nat :=
  digits.foldl (fun n digit => base * n + digit) 0

end Text
end WrenchLink

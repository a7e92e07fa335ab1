/-
Numbers and date-times.

All of these are runs of letters, digits and the marks `+ - _ . :`, and none of those
characters can stand behind a value, so a whole run is read at once or not at all.  Only
a date may go on behind a blank, with its time.
-/
import WrenchLink.Number.Decimal
import WrenchLink.Text.Split
import WrenchLink.Toml.Value

namespace WrenchLink
namespace Toml

/-- The characters of numbers, date-times and the words for truth values. -/
def isNumeralChar (c : Char) : Bool :=
  c.isAlphanum || c == '+' || c == '-' || c == '_' || c == '.' || c == ':'

def digits? (base : Nat) (cs : List Char) : Option (List Nat) :=
  let groups := Text.split '_' cs
  if groups.any List.isEmpty then none
  else do
    let values ← groups.mapM fun group => group.mapM (Text.digit? base)
    return values.flatten

/-- Takes a sign off the front; true is the minus. -/
def sign : List Char → Bool × List Char
  | '+' :: rest => (false, rest)
  | '-' :: rest => (true, rest)
  | cs => (false, cs)

def wholePart? (cs : List Char) : Option (List Nat) :=
  match cs with
  | '0' :: _ :: _ => none
  | cs => digits? 10 cs

/-- The integers that a document can hold: those of 64 bits. -/
def inRange (n : Int) : Bool := -9223372036854775808 ≤ n && n < 9223372036854775808

def integer? (cs : List Char) : Option Int :=
  let magnitude := match cs with
    | '0' :: 'x' :: rest => (digits? 16 rest).map (Text.digitsValue 16 ·)
    | '0' :: 'o' :: rest => (digits? 8 rest).map (Text.digitsValue 8 ·)
    | '0' :: 'b' :: rest => (digits? 2 rest).map (Text.digitsValue 2 ·)
    | cs => (wholePart? (sign cs).2).map (Text.digitsValue 10 ·)
  (magnitude.map fun n => if (sign cs).1 then -(n : Int) else n).filter inRange

def cut (p : Char → Bool) (cs : List Char) : List Char × Option (List Char) :=
  match cs.dropWhile (!p ·) with
  | [] => (cs, none)
  | _ :: rest => (cs.takeWhile (!p ·), some rest)

/-- The value of an exponent, with a sign and perhaps zeros in front. -/
def exponent? (cs : List Char) : Option Int :=
  let (negative, cs) := sign cs
  (digits? 10 cs).map fun digits =>
    let n : Int := Text.digitsValue 10 digits
    if negative then -n else n

/-- A number with a fraction, an exponent or both.  A positive number too large for double
precision is refused; a negative one is minus infinity. -/
def decimal? (cs : List Char) : Option Binary64 := do
  let (negative, cs) := sign cs
  let (mantissa, exponent) := cut (fun c => c == 'e' || c == 'E') cs
  let (whole, fraction) := cut (· == '.') mantissa
  if exponent.isNone && fraction.isNone then none
  else
    let whole ← wholePart? whole
    let fraction ← match fraction with
      | none => some []
      | some cs => digits? 10 cs
    let exponent ← match exponent with
      | none => some 0
      | some cs => exponent? cs
    let x := Binary64.ofDecimal negative (Text.digitsValue 10 (whole ++ fraction))
      (exponent - fraction.length)
    if !negative && x.magnitude == double.infinity then none else some x

/-- The words for numbers that no digits write. -/
def special? (cs : List Char) : Option Binary64 :=
  let (negative, word) := sign cs
  if word = ['i', 'n', 'f'] then some (.ofMagnitude negative double.infinity)
  else if word = ['n', 'a', 'n'] then some (.ofMagnitude negative double.notANumber)
  else none

/-! ## Dates and times -/

def pair? (a b : Char) : Option Nat := do
  let a ← Text.digit? 10 a
  let b ← Text.digit? 10 b
  return 10 * a + b

def daysIn (year month : Nat) : Nat :=
  if month = 2 then
    if year % 4 = 0 ∧ (year % 100 ≠ 0 ∨ year % 400 = 0) then 29 else 28
  else if month = 4 ∨ month = 6 ∨ month = 9 ∨ month = 11 then 30
  else 31

/-- What stands behind a date at the front. -/
def afterDate? : List Char → Option (List Char)
  | y1 :: y2 :: y3 :: y4 :: '-' :: m1 :: m2 :: '-' :: d1 :: d2 :: rest => do
    let century ← pair? y1 y2
    let year ← pair? y3 y4
    let month ← pair? m1 m2
    let day ← pair? d1 d2
    if 1 ≤ month ∧ month ≤ 12 ∧ 1 ≤ day ∧ day ≤ daysIn (100 * century + year) month then
      some rest
    else none
  | _ => none

/-- What stands behind a time of day at the front; a minute may have sixty-one seconds. -/
def afterTime? : List Char → Option (List Char)
  | h1 :: h2 :: ':' :: m1 :: m2 :: ':' :: s1 :: s2 :: rest => do
    let hour ← pair? h1 h2
    let minute ← pair? m1 m2
    let second ← pair? s1 s2
    if hour ≤ 23 ∧ minute ≤ 59 ∧ second ≤ 60 then
      match rest with
      | '.' :: f :: rest => if f.isDigit then some (rest.dropWhile Char.isDigit) else none
      | rest => some rest
    else none
  | _ => none

/-- The whole is an offset from universal time, or nothing. -/
def isOffset : List Char → Bool
  | [] | ['Z'] | ['z'] => true
  | [s, h1, h2, ':', m1, m2] =>
    (s == '+' || s == '-') && (pair? h1 h2).any (· ≤ 23) && (pair? m1 m2).any (· ≤ 59)
  | _ => false

def isOffsetTime (cs : List Char) : Bool := (afterTime? cs).any isOffset

def isDateTime (cs : List Char) : Bool :=
  match afterDate? cs with
  | some [] => true
  | some (c :: rest) => (c == 'T' || c == 't') && isOffsetTime rest
  | none => (afterTime? cs).any List.isEmpty

def numeral? (cs : List Char) : Option Value :=
  if cs = ['t', 'r', 'u', 'e'] then some (.boolean true)
  else if cs = ['f', 'a', 'l', 's', 'e'] then some (.boolean false)
  else if isDateTime cs then some .dateTime
  else ((special? cs).or (decimal? cs)).map .float |>.or ((integer? cs).map .integer)

/-- Reads a run of numeral characters, and a second one behind a single blank if the first
is a date. -/
def readNumeral? (cs : List Char) : Option (Value × List Char) :=
  let run := cs.takeWhile isNumeralChar
  let rest := cs.dropWhile isNumeralChar
  match afterDate? run, rest with
  | some [], ' ' :: more =>
    let time := more.takeWhile isNumeralChar
    if time.isEmpty then some (.dateTime, rest)
    else if isOffsetTime time then some (.dateTime, more.dropWhile isNumeralChar)
    else none
  | _, _ => (numeral? run).map fun v => (v, rest)

end Toml
end WrenchLink

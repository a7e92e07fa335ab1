/-
What a document may hold between its keys and values: blanks, line ends and comments.

A carriage return counts only in front of a line feed, and the two together are one line
end, inside strings as well.  `unifyLineEnds` takes such carriage returns away once, so
that everything after it knows a single kind of line end.
-/

namespace WrenchLink
namespace Toml

def isBlank (c : Char) : Bool := c == ' ' || c == '\t'

def isPlain (c : Char) : Bool := c == '\t' || (0x20 ≤ c.toNat && c != '\x7f')

/-- Takes away each carriage return in front of a line feed. -/
def unifyLineEnds : List Char → List Char
  | [] => []
  | '\r' :: '\n' :: rest => '\n' :: unifyLineEnds rest
  | c :: rest => c :: unifyLineEnds rest

def skipBlanks (cs : List Char) : List Char := cs.dropWhile isBlank

/-- Goes to the next line.  What is left of this one may only be blanks and a comment. -/
def nextLine? (cs : List Char) : Option (List Char) :=
  match skipBlanks cs with
  | [] => some []
  | '\n' :: rest => some rest
  | '#' :: rest =>
    match rest.dropWhile isPlain with
    | [] => some []
    | '\n' :: rest => some rest
    | _ => none
  | _ => none

/-- Skips blanks, line ends and comments.  A comment that holds a control is left at that
control, where nothing can go on. -/
def skipLayout (inComment : Bool) : List Char → List Char
  | [] => []
  | c :: rest =>
    if c == '\n' then skipLayout false rest
    else if inComment then if isPlain c then skipLayout true rest else c :: rest
    else if isBlank c then skipLayout false rest
    else if c == '#' then skipLayout true rest
    else c :: rest

end Toml
end WrenchLink

/-
Documents.

A document is a run of lines: headings, assignments of values to keys, and lines of blanks
and comments.  `parse?` reads all of them and then builds the table that they describe.
Arrays and inline tables may hold one another; a limit on how deep bounds the reading of
values, and the same limit holds for the keys of one path.
-/
import WrenchLink.Toml.Numeral
import WrenchLink.Toml.Quotation
import WrenchLink.Toml.Table

namespace WrenchLink
namespace Toml

/-- How deep values may lie in one another, and how many keys a path may have. -/
def maxDepth : Nat := 79

/-! ## Keys -/

def isBareKeyChar (c : Char) : Bool := c.isAlphanum || c == '-' || c == '_'

def readKey? (cs : List Char) : Option (String × List Char) :=
  match cs.takeWhile isBareKeyChar with
  | [] => readLine? cs
  | key => some (String.ofList key, cs.dropWhile isBareKeyChar)

/-- Reads keys with points between them, at most so many, and the blanks around them. -/
def readPath? : Nat → List Char → Option (Path × List Char)
  | 0, _ => none
  | left + 1, cs => do
    let (key, rest) ← readKey? (skipBlanks cs)
    match skipBlanks rest with
    | '.' :: rest =>
      let (path, rest) ← readPath? left rest
      return (⟨key :: path.parents, path.leaf⟩, rest)
    | rest => return (⟨[], key⟩, rest)

def readAssignment? (readValue? : List Char → Option (Value × List Char)) (cs : List Char) :
    Option ((Path × Value) × List Char) := do
  let (path, rest) ← readPath? maxDepth cs
  match rest with
  | '=' :: rest =>
    let (v, rest) ← readValue? (skipBlanks rest)
    return ((path, v), rest)
  | _ => none

/-! ## Values

Every element and every pair takes at least one character, so the length of the text
bounds how many rounds the readers below need. -/

/-- Reads the elements of an array and its closing bracket.  They may stand on lines of
their own, and a comma may follow the last. -/
def readElements? (readValue? : List Char → Option (Value × List Char)) :
    Nat → List Char → Option (List Value × List Char)
  | 0, _ => none
  | rounds + 1, cs =>
    match skipLayout false cs with
    | ']' :: rest => some ([], rest)
    | cs => do
      let (v, rest) ← readValue? cs
      match skipLayout false rest with
      | ']' :: rest => return ([v], rest)
      | ',' :: rest =>
        let (vs, rest) ← readElements? readValue? rounds rest
        return (v :: vs, rest)
      | _ => none

/-- Reads the pairs of an inline table, at least one, and its closing brace. -/
def readPairs? (readValue? : List Char → Option (Value × List Char)) :
    Nat → List Char → Option (List (Path × Value) × List Char)
  | 0, _ => none
  | rounds + 1, cs => do
    let (pair, rest) ← readAssignment? readValue? cs
    match skipBlanks rest with
    | '\x7d' :: rest => return ([pair], rest)
    | ',' :: rest =>
      let (pairs, rest) ← readPairs? readValue? rounds rest
      return (pair :: pairs, rest)
    | _ => none

def readInlineTable? (readValue? : List Char → Option (Value × List Char)) (cs : List Char) :
    Option (Value × List Char) :=
  match skipBlanks cs with
  | '\x7d' :: rest => some (.table [], rest)
  | cs => do
    let (pairs, rest) ← readPairs? readValue? cs.length cs
    let entries ← Entries.ofAssignments pairs []
    return (.table (entriesToValues entries), rest)

/-- Reads a value that holds others no deeper than `depth`. -/
def readValue? (depth : Nat) (cs : List Char) : Option (Value × List Char) :=
  match cs, depth with
  | '[' :: _, 0 | '\x7b' :: _, 0 => none
  | '[' :: rest, depth + 1 => do
    let (vs, rest) ← readElements? (readValue? depth) cs.length rest
    return (.array vs, rest)
  | '\x7b' :: rest, depth + 1 => readInlineTable? (readValue? depth) rest
  | '"' :: _, _ | '\'' :: _, _ => (readString? cs).map fun (s, rest) => (.string s, rest)
  | cs, _ => readNumeral? cs

/-! ## Lines -/

def readStatement? (cs : List Char) : Option (Statement × List Char) :=
  match cs with
  | '[' :: '[' :: rest => do
    let (path, rest) ← readPath? maxDepth rest
    match rest with
    | ']' :: ']' :: rest => return (.elementHeading path, ← nextLine? rest)
    | _ => none
  | '[' :: rest => do
    let (path, rest) ← readPath? maxDepth rest
    match rest with
    | ']' :: rest => return (.heading path, ← nextLine? rest)
    | _ => none
  | cs => do
    let ((path, v), rest) ← readAssignment? (readValue? maxDepth) cs
    return (.assignment path v, ← nextLine? rest)

/-- Reads lines to the end of the text.  Each takes at least one character, so as many
rounds as the text has characters, and one for its end, are enough. -/
def readStatements? : Nat → List Char → Option (List Statement)
  | 0, _ => none
  | rounds + 1, cs =>
    match skipBlanks cs with
    | [] => some []
    | '\n' :: rest => readStatements? rounds rest
    | '#' :: rest => do readStatements? rounds (← nextLine? ('#' :: rest))
    | cs => do
      let (statement, rest) ← readStatement? cs
      let statements ← readStatements? rounds rest
      return statement :: statements

/-- Drops the mark that a text may begin with to show its encoding. -/
def dropByteOrderMark : List Char → List Char
  | '\ufeff' :: rest => rest
  | cs => cs

def parse? (text : String) : Option (List (String × Value)) := do
  let cs := unifyLineEnds (dropByteOrderMark text.toList)
  let statements ← readStatements? (cs.length + 1) cs
  let entries ← build statements [] []
  return entriesToValues entries

end Toml
end WrenchLink

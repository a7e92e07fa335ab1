/-
Quoted strings.

A string stands between double quotes, where a backslash starts an escape, or between
single quotes, where every character means itself.  Three quotes in place of one allow
line ends inside; a line end right behind the opening ones is no part of the string.

Writing picks the plainest of these that needs no escapes, `Style.choose`, and falls back
on escapes between double quotes.
-/
import WrenchLink.Text.Split
import WrenchLink.Toml.Blank

namespace WrenchLink
namespace Toml

/-- The character with a hexadecimal code; there is none for half of a surrogate pair or
beyond the last code point. -/
def charOfCode? (n : Nat) : Option Char :=
  if h : n.isValidChar then some (Char.ofNatAux n h) else none

def escapeMeaning? : Char → Option Char
  | 'b' => some '\x08'
  | 't' => some '\t'
  | 'n' => some '\n'
  | 'f' => some '\x0c'
  | 'r' => some '\r'
  | '"' => some '"'
  | '\\' => some '\\'
  | _ => none

/-- Where the reading of a string between double quotes stands. -/
inductive Reading where
  | text
  /-- Behind a backslash. -/
  | escape
  /-- Within a code of which `left` digits are to come. -/
  | code (left value : Nat)
  /-- Behind a backslash and blanks, in front of the line end that they announce. -/
  | lineEnd
  /-- Behind an escaped line end, where all layout is skipped. -/
  | trim
  deriving DecidableEq, Repr

/-- The quotes that belong to the string in front of three closing ones, given what stands
behind the first three: at most two. -/
def closingQuotes (quote : Char) : List Char → List Char × List Char
  | a :: b :: rest =>
    if a = quote then if b = quote then ([quote, quote], rest) else ([quote], b :: rest)
    else ([], a :: b :: rest)
  | [a] => if a = quote then ([quote], []) else ([], [a])
  | [] => ([], [])

def prepend (c : Char) (body : Option (List Char × List Char)) : Option (List Char × List Char) :=
  body.map fun (cs, rest) => (c :: cs, rest)

/-- Reads a string between double quotes up to its closing quotes, of which `multi` says
whether they are three. -/
def basicBody (multi : Bool) : Reading → List Char → Option (List Char × List Char)
  | _, [] => none
  | .escape, c :: rest =>
    match escapeMeaning? c with
    | some meaning => prepend meaning (basicBody multi .text rest)
    | none =>
      if c == 'u' then basicBody multi (.code 4 0) rest
      else if c == 'U' then basicBody multi (.code 8 0) rest
      else if multi && c == '\n' then basicBody multi .trim rest
      else if multi && isBlank c then basicBody multi .lineEnd rest
      else none
  | .code left value, c :: rest =>
    match Text.digit? 16 c with
    | none => none
    | some digit =>
      if left ≤ 1 then
        match charOfCode? (16 * value + digit) with
        | some meaning => prepend meaning (basicBody multi .text rest)
        | none => none
      else basicBody multi (.code (left - 1) (16 * value + digit)) rest
  | .lineEnd, c :: rest =>
    if c == '\n' then basicBody multi .trim rest
    else if isBlank c then basicBody multi .lineEnd rest
    else none
  | state, c :: rest =>
    if state == .trim && (isBlank c || c == '\n') then basicBody multi .trim rest
    else if c == '"' then
      if multi then
        match rest with
        | '"' :: '"' :: rest => some (closingQuotes '"' rest)
        | _ => prepend c (basicBody multi .text rest)
      else some ([], rest)
    else if c == '\\' then basicBody multi .escape rest
    else if isPlain c || (multi && c == '\n') then prepend c (basicBody multi .text rest)
    else none

def literalBody (multi : Bool) : List Char → Option (List Char × List Char)
  | [] => none
  | c :: rest =>
    if c == '\'' then
      if multi then
        match rest with
        | '\'' :: '\'' :: rest => some (closingQuotes '\'' rest)
        | _ => prepend c (literalBody multi rest)
      else some ([], rest)
    else if isPlain c || (multi && c == '\n') then prepend c (literalBody multi rest)
    else none

def dropLineEnd : List Char → List Char
  | '\n' :: rest => rest
  | cs => cs

def readLine? : List Char → Option (String × List Char)
  | '"' :: rest => (basicBody false .text rest).map fun (cs, rest) => (String.ofList cs, rest)
  | '\'' :: rest => (literalBody false rest).map fun (cs, rest) => (String.ofList cs, rest)
  | _ => none

def readString? : List Char → Option (String × List Char)
  | '"' :: '"' :: '"' :: rest =>
    (basicBody true .text (dropLineEnd rest)).map fun (cs, rest) => (String.ofList cs, rest)
  | '\'' :: '\'' :: '\'' :: rest =>
    (literalBody true (dropLineEnd rest)).map fun (cs, rest) => (String.ofList cs, rest)
  | cs => readLine? cs

/-! ## Writing -/

inductive Style where
  | basic
  | literal
  | basicLines
  | literalLines
  deriving DecidableEq, Repr

def longestRun (c : Char) : List Char → Nat → Nat
  | [], run => run
  | x :: rest, run =>
    if x = c then longestRun c rest (run + 1) else max run (longestRun c rest 0)

def isControl (c : Char) : Bool := !(isPlain c || c == '\n')

namespace Style

/-- The first style that can hold the text without escapes, or the one that escapes.  A tab
counts as a character that any style can hold. -/
def choose (text : List Char) : Style :=
  let controls := text.any isControl
  let backslashes := text.contains '\\'
  let lineEnds := text.contains '\n'
  let singles := longestRun '\'' text 0
  let doubles := longestRun '"' text 0
  if !controls && !backslashes && doubles == 0 && !lineEnds then basic
  else if !controls && singles == 0 && !lineEnds then literal
  else if !controls && !backslashes && doubles ≤ 2 then basicLines
  else if !controls && singles ≤ 2 then literalLines
  else if lineEnds then basicLines
  else basic

end Style

def fourDigits (n : Nat) : List Char :=
  [n / 4096 % 16, n / 256 % 16, n / 16 % 16, n % 16].map fun d => (Nat.digitChar d).toUpper

/-- How a character is written where escapes count, unless it stands for itself. -/
def escaped? (c : Char) : Option (List Char) :=
  match c with
  | '\x08' => some ['\\', 'b']
  | '\t' => some ['\\', 't']
  | '\n' => some ['\\', 'n']
  | '\x0c' => some ['\\', 'f']
  | '\r' => some ['\\', 'r']
  | '"' => some ['\\', '"']
  | '\\' => some ['\\', '\\']
  | c => if isControl c then some ('\\' :: 'u' :: fourDigits c.toNat) else none

/-- Writes a text where escapes count.  Of quotes in a row, `quotes` may stand as they are
before one is escaped, and where line ends are allowed they stand as they are. -/
def escapeBody (multi : Bool) (quotes : Nat) : Nat → List Char → List Char
  | _, [] => []
  | run, c :: rest =>
    if c == '"' && run < quotes then c :: escapeBody multi quotes (run + 1) rest
    else if multi && c == '\n' then c :: escapeBody multi quotes 0 rest
    else match escaped? c with
      | some text => text ++ escapeBody multi quotes 0 rest
      | none => c :: escapeBody multi quotes 0 rest

/-- The quoted string in a given style.  Between triple quotes a text with line ends starts
on a line of its own. -/
def quoteAs (style : Style) (text : List Char) : List Char :=
  let lead := if text.contains '\n' then ['\n'] else []
  match style with
  | .basic => '"' :: escapeBody false 0 0 text ++ ['"']
  | .literal => '\'' :: text ++ ['\'']
  | .basicLines => ['"', '"', '"'] ++ lead ++ escapeBody true 2 0 text ++ ['"', '"', '"']
  | .literalLines => ['\'', '\'', '\''] ++ lead ++ text ++ ['\'', '\'', '\'']

def quote (text : List Char) : List Char := quoteAs (Style.choose text) text

end Toml
end WrenchLink

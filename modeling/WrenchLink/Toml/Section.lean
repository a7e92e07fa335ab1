/-
Documents as they are written.

A document is written section by section: a heading, then one line for each setting.
The settings of the first section have no heading over them, and a blank line keeps each
further section apart from the one before.
-/
import WrenchLink.Number.Decimal
import WrenchLink.Toml.Quotation

namespace WrenchLink
namespace Toml

/-- A value that is written on one line, or a string. -/
inductive Literal where
  | string (text : String)
  | integer (n : Nat)
  | float (x : Binary64)
  | boolean (b : Bool)
  | emptyArray
  deriving Repr

namespace Literal

def chars : Literal → List Char
  | string text => quote text.toList
  | integer n => (toString n).toList
  | float x => x.toDecimal.toList
  | boolean true => ['t', 'r', 'u', 'e']
  | boolean false => ['f', 'a', 'l', 's', 'e']
  | emptyArray => ['[', ']']

end Literal

inductive Heading where
  | table (path : List String)
  /-- The next table of the array at a path. -/
  | element (path : List String)
  deriving DecidableEq, Repr

namespace Heading

def chars : Heading → List Char
  | table path => '[' :: (".".intercalate path).toList ++ [']']
  | element path => '[' :: '[' :: (".".intercalate path).toList ++ [']', ']']

end Heading

abbrev Settings := List (String × Literal)

/-- One line for each setting.  Keys are written as they are. -/
def settingLines (settings : Settings) : List Char :=
  settings.flatMap fun (key, value) => key.toList ++ [' ', '=', ' '] ++ value.chars ++ ['\n']

structure Section where
  heading : Heading
  settings : Settings
  deriving Repr

namespace Section

def lines (s : Section) : List Char :=
  ['\n'] ++ s.heading.chars ++ ['\n'] ++ settingLines s.settings

end Section

def render (settings : Settings) (sections : List Section) : String :=
  String.ofList (settingLines settings ++ sections.flatMap Section.lines)

end Toml
end WrenchLink

/-
Tables under construction.

A document gives a table in pieces, and not every piece may extend every other.  A table
that a heading opened is `defined` and takes no second heading and no dotted key from
outside.  One that only dotted keys made is `dotted` and takes no heading.  One that
exists only because a heading named something inside it is `implied`, and a heading of
its own may still come.  Values, inline tables among them, are closed.
-/
import WrenchLink.Toml.Value

namespace WrenchLink
namespace Toml

/-- How a table came to be. -/
inductive Origin where
  | defined
  | dotted
  | implied
  deriving DecidableEq, Repr

inductive Item where
  | value (v : Value)
  | table (origin : Origin) (entries : List (String × Item))
  | tables (elements : List (List (String × Item)))

abbrev Entries := List (String × Item)

/-- A key with the keys of the tables that it lies in, outermost first. -/
structure Path where
  parents : List String
  leaf : String
  deriving DecidableEq, Repr

mutual

def Item.toValue : Item → Value
  | .value v => v
  | .table _ entries => .table (entriesToValues entries)
  | .tables elements => .array (elementsToValues elements)

def entriesToValues : List (String × Item) → List (String × Value)
  | [] => []
  | (key, item) :: rest => (key, item.toValue) :: entriesToValues rest

def elementsToValues : List (List (String × Item)) → List Value
  | [] => []
  | entries :: rest => .table (entriesToValues entries) :: elementsToValues rest

end

namespace Entries

/-- Changes the table at a path by `f`, which is given the table's origin.  Tables that are
missing on the way are made with the origin `opening`; of an array the last table is meant.
A dotted key does not lead into a table that a heading defined. -/
def within (opening : Origin) (f : Origin → Entries → Option Entries) :
    List String → Origin → Entries → Option Entries
  | [], origin, entries => f origin entries
  | key :: path, _, entries =>
    match lookup key entries with
    | none => do
      let child ← within opening f path opening []
      return entries ++ [(key, .table opening child)]
    | some (.value _) => none
    | some (.table origin child) =>
      if opening = .dotted ∧ origin = .defined then none
      else do
        let child ← within opening f path origin child
        return replace key (.table origin child) entries
    | some (.tables elements) =>
      match elements.getLast? with
      | none => none
      | some last => do
        let last ← within opening f path .defined last
        return replace key (.tables (elements.dropLast ++ [last])) entries

/-- Gives a key its value.  The tables of a dotted key are made by dotted keys alone, and a
plain key does not reach into one. -/
def assign (path : Path) (v : Value) (origin : Origin) (entries : Entries) : Option Entries :=
  within .dotted
    (fun origin entries =>
      if (origin == .dotted) == path.parents.isEmpty then none
      else match lookup path.leaf entries with
        | none => some (entries ++ [(path.leaf, .value v)])
        | some _ => none)
    path.parents origin entries

def openTable (path : Path) (entries : Entries) : Option Entries :=
  within .implied
    (fun _ entries =>
      match lookup path.leaf entries with
      | none => some (entries ++ [(path.leaf, .table .defined [])])
      | some (.table .implied child) => some (replace path.leaf (.table .defined child) entries)
      | some _ => none)
    path.parents .defined entries

/-- Opens the next table of an array by its heading. -/
def openElement (path : Path) (entries : Entries) : Option Entries :=
  within .implied
    (fun _ entries =>
      match lookup path.leaf entries with
      | none => some (entries ++ [(path.leaf, .tables [[]])])
      | some (.tables elements) =>
        some (replace path.leaf (.tables (elements ++ [[]])) entries)
      | some _ => none)
    path.parents .defined entries

def ofAssignments : List (Path × Value) → Entries → Option Entries
  | [], entries => some entries
  | (path, v) :: rest, entries => do
    let entries ← assign path v .defined entries
    ofAssignments rest entries

end Entries

/-- One line of a document, or more where a value spans several. -/
inductive Statement where
  | heading (path : Path)
  | elementHeading (path : Path)
  | assignment (path : Path) (v : Value)

/-- The table that statements build, given the path of the table that the last heading
opened. -/
def build : List Statement → List String → Entries → Option Entries
  | [], _, entries => some entries
  | .heading path :: rest, _, entries => do
    let entries ← Entries.openTable path entries
    build rest (path.parents ++ [path.leaf]) entries
  | .elementHeading path :: rest, _, entries => do
    let entries ← Entries.openElement path entries
    build rest (path.parents ++ [path.leaf]) entries
  | .assignment path v :: rest, current, entries => do
    let entries ← Entries.within .implied (Entries.assign path v) current .defined entries
    build rest current entries

end Toml
end WrenchLink

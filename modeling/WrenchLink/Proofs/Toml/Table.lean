/-
The table that a written document builds.

While a document is built its current table is the last entry of the table around it, so
each setting and each new heading adds an entry at one place and leaves all before it.
`Opens` says where that place is.
-/
import WrenchLink.Proofs.Toml.Document

namespace WrenchLink
namespace Toml

/-! ## Entries at the end -/

section Lookup

variable {α : Type} {key : String} {xs : List (String × α)}

theorem lookup_of_not_mem (h : key ∉ xs.map Prod.fst) : lookup key xs = none := by
  induction xs with
  | nil => rfl
  | cons x xs ih =>
    rw [List.map_cons, List.mem_cons, not_or] at h
    rw [lookup, if_neg (Ne.symm h.1), ih h.2]

theorem lookup_last (h : key ∉ xs.map Prod.fst) (a : α) :
    lookup key (xs ++ [(key, a)]) = some a := by
  rw [lookup_append, lookup_of_not_mem h, lookup, if_pos rfl]
  rfl

theorem replace_last (h : key ∉ xs.map Prod.fst) (a b : α) :
    replace key b (xs ++ [(key, a)]) = xs ++ [(key, b)] := by
  induction xs with
  | nil =>
    rw [List.nil_append, replace, if_pos rfl]
    rfl
  | cons x xs ih =>
    rw [List.map_cons, List.mem_cons, not_or] at h
    rw [List.cons_append, replace, if_neg (Ne.symm h.1), ih h.2, List.cons_append]

end Lookup

namespace Entries

variable {key : String} {xs entries : Entries} {f : Origin → Entries → Option Entries}

theorem within_last_table (h : key ∉ xs.map Prod.fst) (path : List String) (origin inner : Origin)
    (child : Entries) :
    within .implied f (key :: path) origin (xs ++ [(key, .table inner child)]) =
      (within .implied f path inner child).map fun child => xs ++ [(key, .table inner child)] := by
  simp only [within, lookup_last h, reduceCtorEq, false_and, ite_false]
  cases within .implied f path inner child with
  | none => rfl
  | some child => exact congrArg some (replace_last h _ _)

theorem within_last_tables (h : key ∉ xs.map Prod.fst) (path : List String) (origin : Origin)
    (elements : List Entries) (last : Entries) :
    within .implied f (key :: path) origin (xs ++ [(key, .tables (elements ++ [last]))]) =
      (within .implied f path .defined last).map
        fun last => xs ++ [(key, .tables (elements ++ [last]))] := by
  simp only [within, lookup_last h, List.getLast?_concat, List.dropLast_concat]
  cases within .implied f path .defined last with
  | none => rfl
  | some last => exact congrArg some (replace_last h _ _)

theorem assign_leaf (h : key ∉ entries.map Prod.fst) (v : Value) :
    assign ⟨[], key⟩ v .defined entries = some (entries ++ [(key, .value v)]) := by
  simp [assign, within, lookup_of_not_mem h]

end Entries

/-! ## The current table -/

/-- Headings led to the table that stands in `place`: what is done to that table is done at its
place in the whole. -/
def Opens (current : List String) (place : Entries → Entries) : Prop :=
  ∀ f child, Entries.within .implied f current .defined (place child) =
    (f .defined child).map place

namespace Opens

variable {key : String} {xs : Entries} {path : List String} {place : Entries → Entries}

theorem root : Opens [] id := by
  intro f child
  rw [Entries.within]
  exact Option.map_id.symm ▸ rfl

theorem table (h : Opens path place) (fresh : key ∉ xs.map Prod.fst) :
    Opens (key :: path) fun child => xs ++ [(key, .table .defined (place child))] := by
  intro f child
  rw [Entries.within_last_table fresh, h, Option.map_map]
  rfl

theorem element (fresh : key ∉ xs.map Prod.fst) (elements : List Entries) :
    Opens [key] fun child => xs ++ [(key, .tables (elements ++ [child]))] := by
  intro f child
  rw [Entries.within_last_tables fresh]
  rfl

theorem openTable (h : Opens path place) {entries : Entries}
    (fresh : key ∉ entries.map Prod.fst) :
    Entries.openTable ⟨path, key⟩ (place entries) =
      some (place (entries ++ [(key, .table .defined [])])) := by
  rw [Entries.openTable, h, lookup_of_not_mem fresh]
  rfl

end Opens

/-- A setting as an entry of its table. -/
def settingEntry (setting : String × Literal) : String × Item :=
  (setting.1, .value setting.2.value)

theorem keys_settingEntries (settings : Settings) :
    (settings.map settingEntry).map Prod.fst = settings.map Prod.fst := by
  rw [List.map_map]
  rfl

/-- Settings whose keys are new to the current table are added to it in order. -/
theorem build_settings {current : List String} {place : Entries → Entries}
    (h : Opens current place) {settings : Settings} {entries : Entries}
    (distinct : (entries.map Prod.fst ++ settings.map Prod.fst).Nodup) (rest : List Statement) :
    build (settings.map settingStatement ++ rest) current (place entries) =
      build rest current (place (entries ++ settings.map settingEntry)) := by
  induction settings generalizing entries with
  | nil => rw [List.map_nil, List.map_nil, List.nil_append, List.append_nil]
  | cons s settings ih =>
    have fresh : s.1 ∉ entries.map Prod.fst := fun mem =>
      (List.nodup_append.1 distinct).2.2 s.1 mem s.1 List.mem_cons_self rfl
    have added : Entries.within .implied (Entries.assign ⟨[], s.1⟩ s.2.value) current .defined
        (place entries) = some (place (entries ++ [settingEntry s])) := by
      rw [h, Entries.assign_leaf fresh]
      rfl
    rw [List.map_cons, List.cons_append, settingStatement, build, added]
    simp only [Option.bind_eq_bind, Option.bind_some]
    rw [ih, List.append_assoc]
    · rfl
    · simpa [settingEntry] using distinct

/-- A section of one table is built at its place. -/
theorem build_table {path : List String} {key : String} {place : Entries → Entries}
    (h : Opens path place) {entries : Entries} (fresh : key ∉ entries.map Prod.fst)
    (inner : Opens (path ++ [key]) fun child => place (entries ++ [(key, .table .defined child)]))
    {settings : Settings} (distinct : (settings.map Prod.fst).Nodup) (rest : List Statement)
    (current : List String) :
    build ((⟨.table (path ++ [key]), settings⟩ : Section).statements ++ rest) current
        (place entries) =
      build rest (path ++ [key])
        (place (entries ++ [(key, .table .defined (settings.map settingEntry))])) := by
  have keys : Path.ofKeys (path ++ [key]) = ⟨path, key⟩ := by
    simp [Path.ofKeys]
  rw [Section.statements, Heading.statement, keys, List.cons_append, build, h.openTable fresh]
  have empty : ((([] : Entries).map Prod.fst) ++ settings.map Prod.fst).Nodup := distinct
  exact build_settings inner empty rest

/-! ## Arrays of tables -/

/-- The entry of an array of tables, which is there once it has an element. -/
def arrayEntry (key : String) : List Entries → Entries
  | [] => []
  | elements => [(key, .tables elements)]

theorem arrayEntry_concat (key : String) (elements : List Entries) (last : Entries) :
    arrayEntry key (elements ++ [last]) = [(key, .tables (elements ++ [last]))] := by
  cases elements <;> rfl

theorem openElement_arrayEntry {key : String} {xs : Entries} (fresh : key ∉ xs.map Prod.fst)
    (elements : List Entries) :
    Entries.openElement ⟨[], key⟩ (xs ++ arrayEntry key elements) =
      some (xs ++ [(key, .tables (elements ++ [[]]))]) := by
  cases elements with
  | nil =>
    rw [arrayEntry, List.append_nil, Entries.openElement, Entries.within, lookup_of_not_mem fresh]
    rfl
  | cons element elements =>
    rw [arrayEntry, Entries.openElement, Entries.within, lookup_last fresh]
    · exact congrArg some (replace_last fresh _ _)
    · exact List.cons_ne_nil _ _

/-- A section of one element is built behind the elements before it. -/
theorem build_element {key : String} {xs : Entries} (fresh : key ∉ xs.map Prod.fst)
    {settings : Settings} (distinct : (settings.map Prod.fst).Nodup) (elements : List Entries)
    (rest : List Statement) (current : List String) :
    build ((⟨.element [key], settings⟩ : Section).statements ++ rest) current
        (xs ++ arrayEntry key elements) =
      build rest [key] (xs ++ arrayEntry key (elements ++ [settings.map settingEntry])) := by
  have keys : Path.ofKeys [key] = ⟨[], key⟩ := rfl
  have empty : ((([] : Entries).map Prod.fst) ++ settings.map Prod.fst).Nodup := distinct
  rw [Section.statements, Heading.statement, keys, List.cons_append, build,
    openElement_arrayEntry fresh, arrayEntry_concat]
  exact build_settings (Opens.element fresh elements) empty rest

/-- The elements of an array are built in order, up to the next heading. -/
theorem build_elements {key : String} {xs : Entries} (fresh : key ∉ xs.map Prod.fst)
    {rows : List Settings} (distinct : ∀ settings ∈ rows, (settings.map Prod.fst).Nodup)
    (elements : List Entries) (heading : Path) (rest : List Statement) (current : List String) :
    build ((rows.map fun settings => (⟨.element [key], settings⟩ : Section)).flatMap
        Section.statements ++ .heading heading :: rest) current (xs ++ arrayEntry key elements) =
      build (.heading heading :: rest) []
        (xs ++ arrayEntry key (elements ++ rows.map (·.map settingEntry))) := by
  induction rows generalizing elements current with
  | nil =>
    rw [List.map_nil, List.map_nil, List.flatMap_nil, List.nil_append, List.append_nil]
    rfl
  | cons settings rows ih =>
    rw [List.map_cons, List.flatMap_cons, List.append_assoc,
      build_element fresh (distinct settings List.mem_cons_self),
      ih fun s mem => distinct s (List.mem_cons_of_mem settings mem), List.append_assoc]
    rfl

/-! ## Values -/

theorem entriesToValues_append (xs ys : Entries) :
    entriesToValues (xs ++ ys) = entriesToValues xs ++ entriesToValues ys := by
  induction xs with
  | nil => rw [List.nil_append, entriesToValues, List.nil_append]
  | cons x xs ih => rw [List.cons_append, entriesToValues, entriesToValues, ih, List.cons_append]

/-- The table that settings describe. -/
def settingValues (settings : Settings) : List (String × Value) :=
  settings.map fun setting => (setting.1, setting.2.value)

theorem entriesToValues_settings (settings : Settings) :
    entriesToValues (settings.map settingEntry) = settingValues settings := by
  induction settings with
  | nil => rfl
  | cons s settings ih =>
    rw [List.map_cons, settingEntry, entriesToValues, Item.toValue, ih]
    rfl

theorem elementsToValues_settings (rows : List Settings) :
    elementsToValues (rows.map (·.map settingEntry)) =
      rows.map fun settings => .table (settingValues settings) := by
  induction rows with
  | nil => rfl
  | cons settings rows ih =>
    rw [List.map_cons, List.map_cons, elementsToValues, entriesToValues_settings, ih]

theorem entriesToValues_arrayEntry (key : String) (settings : Settings) (rows : List Settings) :
    entriesToValues (arrayEntry key ((settings :: rows).map (·.map settingEntry))) =
      [(key, .array ((settings :: rows).map fun settings => .table (settingValues settings)))] := by
  rw [← elementsToValues_settings, List.map_cons, arrayEntry, entriesToValues, Item.toValue]
  · rfl
  · exact List.cons_ne_nil _ _

end Toml
end WrenchLink

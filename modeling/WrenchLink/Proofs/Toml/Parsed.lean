/-
What the table of a parsed document looks like.

Whatever text is parsed, the keys of every table in it are distinct and its integers have 64
bits: `wellFormed_of_parse?`.  Readers of values keep this at any depth, and so does every
statement, wherever in the table under construction it adds or replaces an entry.
-/
import WrenchLink.Proofs.Toml.Table

namespace WrenchLink
namespace Toml

/-! ## Looking up -/

section Lookup

variable {α : Type} {key : String} {xs : List (String × α)} {a : α}

theorem mem_of_lookup (h : lookup key xs = some a) : (key, a) ∈ xs := by
  induction xs with
  | nil => cases h
  | cons x xs ih =>
    rw [lookup] at h
    split at h
    · rename_i same
      obtain ⟨k, b⟩ := x
      cases h
      cases same
      exact List.mem_cons_self
    · exact List.mem_cons_of_mem _ (ih h)

theorem not_mem_of_lookup (h : lookup key xs = none) : key ∉ xs.map Prod.fst := by
  induction xs with
  | nil => exact List.not_mem_nil
  | cons x xs ih =>
    rw [lookup] at h
    split at h
    · cases h
    · rename_i other
      rw [List.map_cons, List.mem_cons, not_or]
      exact ⟨Ne.symm other, ih h⟩

theorem mem_replace {x : String × α} (h : x ∈ replace key a xs) : x ∈ xs ∨ x.2 = a := by
  induction xs with
  | nil => cases h
  | cons y xs ih =>
    rw [replace] at h
    split at h
    · obtain rfl | mem := List.mem_cons.1 h
      · exact Or.inr rfl
      · exact Or.inl (List.mem_cons_of_mem _ mem)
    · obtain rfl | mem := List.mem_cons.1 h
      · exact Or.inl List.mem_cons_self
      · exact (ih mem).imp_left (List.mem_cons_of_mem _)

end Lookup

/-! ## Values -/

/-- The keys of each table are distinct and the integers have 64 bits. -/
inductive Value.WellFormed : Value → Prop where
  | string (text : String) : WellFormed (.string text)
  | integer {n : Int} (range : inRange n = true) : WellFormed (.integer n)
  | float (x : Binary64) : WellFormed (.float x)
  | boolean (b : Bool) : WellFormed (.boolean b)
  | dateTime : WellFormed .dateTime
  | array {elements : List Value} (each : ∀ v ∈ elements, v.WellFormed) :
    WellFormed (.array elements)
  | table {entries : List (String × Value)} (distinct : (entries.map Prod.fst).Nodup)
    (each : ∀ e ∈ entries, e.2.WellFormed) : WellFormed (.table entries)

theorem Value.WellFormed.of_mem {elements : List Value} (h : (Value.array elements).WellFormed)
    {v : Value} (mem : v ∈ elements) : v.WellFormed := by
  cases h with
  | array each => exact each v mem

theorem Value.WellFormed.of_lookup {entries : List (String × Value)} {key : String} {v : Value}
    (h : (Value.table entries).WellFormed) (found : lookup key entries = some v) :
    v.WellFormed := by
  cases h with
  | table _ each => exact each _ (mem_of_lookup found)

theorem wellFormed_of_readNumeral? {cs rest : List Char} {v : Value}
    (h : readNumeral? cs = some (v, rest)) : v.WellFormed := by
  have numeral {run : List Char} (read : numeral? run = some v) : v.WellFormed := by
    rw [numeral?] at read
    split at read
    · cases read
      exact .boolean _
    split at read
    · cases read
      exact .boolean _
    split at read
    · cases read
      exact .dateTime
    obtain float | ⟨-, integer⟩ := Option.or_eq_some_iff.1 read
    · obtain ⟨x, -, rfl⟩ := Option.map_eq_some_iff.1 float
      exact .float x
    · obtain ⟨n, whole, rfl⟩ := Option.map_eq_some_iff.1 integer
      exact .integer (Option.filter_eq_some_iff.1 whole).2
  rw [readNumeral?] at h
  split at h
  · dsimp only at h
    split at h
    · cases h
      exact .dateTime
    split at h
    · cases h
      exact .dateTime
    · cases h
  · obtain ⟨w, read, same⟩ := Option.map_eq_some_iff.1 h
    cases same
    exact numeral read

/-! ## Tables under construction -/

theorem entriesToValues_eq_map (entries : Entries) :
    entriesToValues entries = entries.map fun e => (e.1, e.2.toValue) := by
  induction entries with
  | nil => rfl
  | cons e entries ih => rw [entriesToValues, ih, List.map_cons]

theorem elementsToValues_eq_map (elements : List Entries) :
    elementsToValues elements = elements.map fun e => .table (entriesToValues e) := by
  induction elements with
  | nil => rfl
  | cons e elements ih => rw [elementsToValues, ih, List.map_cons]

namespace Entries

/-- The table is well formed as a value. -/
def WellFormed (entries : Entries) : Prop := (Value.table (entriesToValues entries)).WellFormed

variable {entries entries' : Entries} {key : String} {item : Item}

theorem wellFormed_iff :
    entries.WellFormed ↔
      (entries.map Prod.fst).Nodup ∧ ∀ e ∈ entries, e.2.toValue.WellFormed := by
  have keys : (entriesToValues entries).map Prod.fst = entries.map Prod.fst := by
    rw [entriesToValues_eq_map, List.map_map]
    rfl
  rw [WellFormed, ← keys, entriesToValues_eq_map]
  constructor
  · rintro (_ | _ | _ | _ | _ | _ | ⟨distinct, each⟩)
    exact ⟨distinct, fun e mem => each _ (List.mem_map_of_mem mem)⟩
  · rintro ⟨distinct, each⟩
    refine .table distinct fun e mem => ?_
    obtain ⟨e', mem', rfl⟩ := List.mem_map.1 mem
    exact each e' mem'

theorem WellFormed.nil : WellFormed [] := wellFormed_iff.2 ⟨List.nodup_nil, List.forall_mem_nil _⟩

theorem WellFormed.of_lookup (h : entries.WellFormed) (found : lookup key entries = some item) :
    item.toValue.WellFormed :=
  (wellFormed_iff.1 h).2 _ (mem_of_lookup found)

theorem WellFormed.concat (h : entries.WellFormed) (fresh : lookup key entries = none)
    (new : item.toValue.WellFormed) : WellFormed (entries ++ [(key, item)]) := by
  obtain ⟨distinct, each⟩ := wellFormed_iff.1 h
  rw [wellFormed_iff, List.map_append, List.map_singleton, List.nodup_append,
    List.forall_mem_append, List.forall_mem_singleton]
  refine ⟨⟨distinct, List.pairwise_singleton _ _, fun k old other mem => ?_⟩, each, new⟩
  rw [List.mem_singleton] at mem
  rintro rfl
  rw [mem] at old
  exact not_mem_of_lookup fresh old

theorem WellFormed.replace (h : entries.WellFormed) (new : item.toValue.WellFormed) :
    WellFormed (Toml.replace key item entries) := by
  obtain ⟨distinct, each⟩ := wellFormed_iff.1 h
  refine wellFormed_iff.2 ⟨?_, fun e mem => ?_⟩
  · rw [keys_replace]
    exact distinct
  · obtain old | same := mem_replace mem
    · exact each e old
    · rw [same]
      exact new

theorem wellFormed_toValue_table {origin : Origin} :
    (Item.table origin entries).toValue.WellFormed ↔ entries.WellFormed := by
  rw [Item.toValue, WellFormed]

theorem wellFormed_toValue_tables {elements : List Entries} :
    (Item.tables elements).toValue.WellFormed ↔ ∀ e ∈ elements, e.WellFormed := by
  rw [Item.toValue, elementsToValues_eq_map]
  constructor
  · intro h e mem
    exact h.of_mem (List.mem_map_of_mem mem)
  · intro h
    refine .array fun v mem => ?_
    obtain ⟨e, mem', rfl⟩ := List.mem_map.1 mem
    exact h e mem'

/-- A change that keeps tables well formed keeps the whole so, wherever it is made. -/
theorem wellFormed_of_within {opening : Origin} {f : Origin → Entries → Option Entries}
    (keeps : ∀ {origin : Origin} {xs ys : Entries}, xs.WellFormed → f origin xs = some ys →
      ys.WellFormed)
    {path : List String} {origin : Origin} (h : entries.WellFormed)
    (changed : within opening f path origin entries = some entries') : entries'.WellFormed := by
  induction path generalizing origin entries entries' with
  | nil =>
    rw [within] at changed
    exact keeps h changed
  | cons key path ih =>
    rw [within] at changed
    split at changed
    · rename_i fresh
      obtain ⟨child, made, same⟩ := Option.bind_eq_some_iff.1 changed
      cases same
      exact h.concat fresh (wellFormed_toValue_table.2 (ih .nil made))
    · cases changed
    · rename_i inner child found
      split at changed
      · cases changed
      obtain ⟨child', made, same⟩ := Option.bind_eq_some_iff.1 changed
      cases same
      have old := wellFormed_toValue_table.1 (h.of_lookup found)
      exact h.replace (wellFormed_toValue_table.2 (ih old made))
    · rename_i elements found
      split at changed
      · cases changed
      rename_i last hlast
      obtain ⟨last', made, same⟩ := Option.bind_eq_some_iff.1 changed
      cases same
      have old := wellFormed_toValue_tables.1 (h.of_lookup found)
      apply h.replace
      rw [wellFormed_toValue_tables, List.forall_mem_append, List.forall_mem_singleton]
      refine ⟨fun e front => ?_, ih (old last (List.mem_of_getLast? hlast)) made⟩
      exact old e ((List.dropLast_sublist elements).subset front)

theorem wellFormed_of_assign {path : Path} {v : Value} (wellFormed : v.WellFormed)
    {origin : Origin} (h : entries.WellFormed)
    (assigned : assign path v origin entries = some entries') : entries'.WellFormed := by
  refine wellFormed_of_within ?_ h assigned
  intro origin xs ys hxs made
  split at made
  · cases made
  split at made
  · rename_i fresh
    cases made
    exact hxs.concat fresh wellFormed
  · cases made

theorem wellFormed_of_openTable {path : Path} (h : entries.WellFormed)
    (opened : openTable path entries = some entries') : entries'.WellFormed := by
  refine wellFormed_of_within ?_ h opened
  intro origin xs ys hxs made
  split at made
  · rename_i fresh
    cases made
    exact hxs.concat fresh (wellFormed_toValue_table.2 .nil)
  · rename_i child found
    cases made
    have old := wellFormed_toValue_table.1 (hxs.of_lookup found)
    exact hxs.replace (wellFormed_toValue_table.2 old)
  · cases made

theorem wellFormed_of_openElement {path : Path} (h : entries.WellFormed)
    (opened : openElement path entries = some entries') : entries'.WellFormed := by
  refine wellFormed_of_within ?_ h opened
  intro origin xs ys hxs made
  split at made
  · rename_i fresh
    cases made
    apply hxs.concat fresh
    rw [wellFormed_toValue_tables, List.forall_mem_singleton]
    exact .nil
  · rename_i elements found
    cases made
    have old := wellFormed_toValue_tables.1 (hxs.of_lookup found)
    apply hxs.replace
    rw [wellFormed_toValue_tables, List.forall_mem_append, List.forall_mem_singleton]
    exact ⟨old, .nil⟩
  · cases made

theorem wellFormed_of_ofAssignments {pairs : List (Path × Value)}
    (each : ∀ pair ∈ pairs, pair.2.WellFormed) (h : entries.WellFormed)
    (made : ofAssignments pairs entries = some entries') : entries'.WellFormed := by
  induction pairs generalizing entries with
  | nil =>
    cases made
    exact h
  | cons pair pairs ih =>
    obtain ⟨next, assigned, made⟩ := Option.bind_eq_some_iff.1 made
    exact ih (fun p mem => each p (List.mem_cons_of_mem _ mem))
      (wellFormed_of_assign (each pair List.mem_cons_self) h assigned) made

end Entries

/-! ## Readers of values -/

section Readers

/-- A reader reads nothing but well-formed values. -/
def ReadsWellFormed (read? : List Char → Option (Value × List Char)) : Prop :=
  ∀ cs v rest, read? cs = some (v, rest) → v.WellFormed

variable {read? : List Char → Option (Value × List Char)} {cs rest : List Char} {v : Value}

theorem wellFormed_of_readElements? (h : ReadsWellFormed read?) {rounds : Nat} {vs : List Value}
    (read : readElements? read? rounds cs = some (vs, rest)) : ∀ v ∈ vs, v.WellFormed := by
  induction rounds generalizing cs vs with
  | zero => cases read
  | succ rounds ih =>
    rw [readElements?] at read
    split at read
    · cases read
      exact List.forall_mem_nil _
    obtain ⟨⟨v, after⟩, first, read⟩ := Option.bind_eq_some_iff.1 read
    have head := h _ _ _ first
    dsimp only at read
    split at read
    · cases read
      exact List.forall_mem_singleton.2 head
    · obtain ⟨⟨vs', after'⟩, others, same⟩ := Option.bind_eq_some_iff.1 read
      cases same
      exact List.forall_mem_cons.2 ⟨head, ih others⟩
    · cases read

theorem wellFormed_of_readAssignment? (h : ReadsWellFormed read?) {pair : Path × Value}
    (read : readAssignment? read? cs = some (pair, rest)) : pair.2.WellFormed := by
  obtain ⟨⟨path, after⟩, -, read⟩ := Option.bind_eq_some_iff.1 read
  dsimp only at read
  split at read
  · obtain ⟨⟨v, after'⟩, value, same⟩ := Option.bind_eq_some_iff.1 read
    cases same
    exact h _ _ _ value
  · cases read

theorem wellFormed_of_readPairs? (h : ReadsWellFormed read?) {rounds : Nat}
    {pairs : List (Path × Value)} (read : readPairs? read? rounds cs = some (pairs, rest)) :
    ∀ pair ∈ pairs, pair.2.WellFormed := by
  induction rounds generalizing cs pairs with
  | zero => cases read
  | succ rounds ih =>
    rw [readPairs?] at read
    obtain ⟨⟨pair, after⟩, first, read⟩ := Option.bind_eq_some_iff.1 read
    have head := wellFormed_of_readAssignment? h first
    dsimp only at read
    split at read
    · cases read
      exact List.forall_mem_singleton.2 head
    · obtain ⟨⟨pairs', after'⟩, others, same⟩ := Option.bind_eq_some_iff.1 read
      cases same
      exact List.forall_mem_cons.2 ⟨head, ih others⟩
    · cases read

theorem wellFormed_of_readInlineTable? (h : ReadsWellFormed read?)
    (read : readInlineTable? read? cs = some (v, rest)) : v.WellFormed := by
  rw [readInlineTable?] at read
  split at read
  · cases read
    exact Entries.WellFormed.nil
  obtain ⟨⟨pairs, after⟩, pairsRead, read⟩ := Option.bind_eq_some_iff.1 read
  obtain ⟨entries, made, same⟩ := Option.bind_eq_some_iff.1 read
  cases same
  exact Entries.wellFormed_of_ofAssignments (wellFormed_of_readPairs? h pairsRead) .nil made

theorem readsWellFormed_of_inner {depth : Nat}
    (inner : ∀ d, depth = d + 1 → ReadsWellFormed (readValue? d)) :
    ReadsWellFormed (readValue? depth) := by
  intro cs v rest read
  rw [readValue?.eq_def] at read
  split at read
  · cases read
  · cases read
  · obtain ⟨⟨vs, after⟩, elements, same⟩ := Option.bind_eq_some_iff.1 read
    cases same
    exact .array (wellFormed_of_readElements? (inner _ rfl) elements)
  · exact wellFormed_of_readInlineTable? (inner _ rfl) read
  · obtain ⟨⟨text, after⟩, -, same⟩ := Option.map_eq_some_iff.1 read
    cases same
    exact .string _
  · obtain ⟨⟨text, after⟩, -, same⟩ := Option.map_eq_some_iff.1 read
    cases same
    exact .string _
  · exact wellFormed_of_readNumeral? read

theorem readsWellFormed_readValue? (depth : Nat) : ReadsWellFormed (readValue? depth) := by
  induction depth with
  | zero => exact readsWellFormed_of_inner nofun
  | succ depth ih =>
    refine readsWellFormed_of_inner fun d eq => ?_
    cases eq
    exact ih

end Readers

/-! ## Lines -/

/-- The statement assigns nothing but a well-formed value. -/
def Statement.WellFormed : Statement → Prop
  | .assignment _ v => v.WellFormed
  | .heading _ | .elementHeading _ => True

theorem wellFormed_of_readStatement? {cs rest : List Char} {statement : Statement}
    (read : readStatement? cs = some (statement, rest)) : statement.WellFormed := by
  rw [readStatement?.eq_def] at read
  split at read
  · obtain ⟨⟨path, after⟩, -, read⟩ := Option.bind_eq_some_iff.1 read
    dsimp only at read
    split at read
    · obtain ⟨next, -, same⟩ := Option.bind_eq_some_iff.1 read
      cases same
      trivial
    · cases read
  · obtain ⟨⟨path, after⟩, -, read⟩ := Option.bind_eq_some_iff.1 read
    dsimp only at read
    split at read
    · obtain ⟨next, -, same⟩ := Option.bind_eq_some_iff.1 read
      cases same
      trivial
    · cases read
  · obtain ⟨⟨⟨path, v⟩, after⟩, assigned, read⟩ := Option.bind_eq_some_iff.1 read
    obtain ⟨next, -, same⟩ := Option.bind_eq_some_iff.1 read
    cases same
    exact wellFormed_of_readAssignment? (readsWellFormed_readValue? maxDepth) assigned

theorem wellFormed_of_readStatements? {rounds : Nat} {cs : List Char}
    {statements : List Statement} (read : readStatements? rounds cs = some statements) :
    ∀ s ∈ statements, s.WellFormed := by
  induction rounds generalizing cs statements with
  | zero => cases read
  | succ rounds ih =>
    rw [readStatements?] at read
    split at read
    · cases read
      exact List.forall_mem_nil _
    · exact ih read
    · obtain ⟨rest, -, read⟩ := Option.bind_eq_some_iff.1 read
      exact ih read
    · obtain ⟨⟨statement, rest⟩, first, read⟩ := Option.bind_eq_some_iff.1 read
      obtain ⟨statements', others, same⟩ := Option.bind_eq_some_iff.1 read
      cases same
      exact List.forall_mem_cons.2 ⟨wellFormed_of_readStatement? first, ih others⟩

theorem wellFormed_of_build {statements : List Statement}
    (each : ∀ s ∈ statements, s.WellFormed) {current : List String} {entries entries' : Entries}
    (h : entries.WellFormed) (built : build statements current entries = some entries') :
    entries'.WellFormed := by
  induction statements generalizing current entries with
  | nil =>
    cases built
    exact h
  | cons statement statements ih =>
    obtain ⟨first, others⟩ := List.forall_mem_cons.1 each
    cases statement with
    | heading path =>
      obtain ⟨next, opened, built⟩ := Option.bind_eq_some_iff.1 built
      exact ih others (Entries.wellFormed_of_openTable h opened) built
    | elementHeading path =>
      obtain ⟨next, opened, built⟩ := Option.bind_eq_some_iff.1 built
      exact ih others (Entries.wellFormed_of_openElement h opened) built
    | assignment path v =>
      obtain ⟨next, changed, built⟩ := Option.bind_eq_some_iff.1 built
      exact ih others
        (Entries.wellFormed_of_within (Entries.wellFormed_of_assign first) h changed) built

/-- Every document that is a document at all gives a well-formed table. -/
theorem wellFormed_of_parse? {text : String} {entries : List (String × Value)}
    (h : parse? text = some entries) : (Value.table entries).WellFormed := by
  obtain ⟨statements, read, h⟩ := Option.bind_eq_some_iff.1 h
  obtain ⟨built, made, same⟩ := Option.bind_eq_some_iff.1 h
  cases same
  exact wellFormed_of_build (wellFormed_of_readStatements? read) .nil made

end Toml
end WrenchLink

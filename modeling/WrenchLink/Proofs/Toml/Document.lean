/-
Written documents read back line by line.

Each value is read up to the line end behind it, each setting and each heading up to the
line behind its own, so that what is read of a whole document are its lines in order.
-/
import WrenchLink.Proofs.Toml.Numeral
import WrenchLink.Proofs.Toml.Quotation
import WrenchLink.Toml.Document
import WrenchLink.Toml.Section

namespace WrenchLink
namespace Toml

variable {cs rest : List Char}

/-! ## Values -/

namespace Literal

/-- The value that a document gives for a literal. -/
def value : Literal → Value
  | string text => .string text
  | integer n => .integer n
  | float x => .float (reread x)
  | boolean b => .boolean b
  | emptyArray => .array []

/-- A document can hold the literal. -/
def InRange : Literal → Prop
  | integer n => n < 9223372036854775808
  | _ => True

end Literal

theorem readValue?_of_isNumeralChar {c : Char} (h : isNumeralChar c) (depth : Nat) :
    readValue? depth (c :: cs) = readNumeral? (c :: cs) := by
  unfold readValue?
  split
  iterate 6
    next eq =>
      cases eq
      exact absurd h (by decide)
  · rfl

theorem exists_cons_of_numeral? {v : Value} (h : numeral? cs = some v) :
    ∃ c tail, cs = c :: tail := by
  cases cs with
  | nil =>
    rw [show numeral? [] = none from rfl] at h
    cases h
  | cons c tail => exact ⟨c, tail, rfl⟩

theorem readValue?_numeral {v : Value} (chars : ∀ c ∈ cs, isNumeralChar c)
    (h : numeral? cs = some v) (depth : Nat) :
    readValue? depth (cs ++ '\n' :: rest) = some (v, '\n' :: rest) := by
  have read := readNumeral?_of_numeral? chars h rest
  obtain ⟨c, tail, rfl⟩ := exists_cons_of_numeral? h
  rw [List.cons_append, readValue?_of_isNumeralChar (chars c List.mem_cons_self)]
  exact read

theorem quote_eq_cons (text : List Char) :
    ∃ tail, quote text = '"' :: tail ∨ quote text = '\'' :: tail := by
  rw [quote]
  cases Style.choose text with
  | basic => exact ⟨_, .inl rfl⟩
  | literal => exact ⟨_, .inr rfl⟩
  | basicLines => exact ⟨_, .inl rfl⟩
  | literalLines => exact ⟨_, .inr rfl⟩

theorem readValue?_quote (text : List Char) (depth : Nat) :
    readValue? depth (quote text ++ '\n' :: rest) =
      some (.string (String.ofList text), '\n' :: rest) := by
  have read := readString?_quote text rest
  obtain ⟨tail, eq | eq⟩ := quote_eq_cons text <;>
  · rw [eq, List.cons_append] at read ⊢
    simp only [readValue?, read]
    rfl

theorem chars_integer (n : Nat) : (Literal.integer n).chars = Nat.toDigits 10 n :=
  Nat.toList_repr

/-- A literal in range is read up to the line end behind it, where values may hold others. -/
theorem readValue?_chars {l : Literal} (h : l.InRange) {depth : Nat} (room : 0 < depth)
    (rest : List Char) :
    readValue? depth (l.chars ++ '\n' :: rest) = some (l.value, '\n' :: rest) := by
  cases l with
  | string text =>
    rw [Literal.chars, readValue?_quote, String.ofList_toList]
    rfl
  | integer n =>
    rw [chars_integer]
    exact readValue?_numeral (isNumeralChar_toDigits n) (numeral?_toDigits h) depth
  | float x => exact readValue?_numeral (isNumeralChar_toDecimal x) (numeral?_toDecimal x) depth
  | boolean b => cases b <;> exact readValue?_numeral (List.all_eq_true.1 rfl) rfl depth
  | emptyArray =>
    obtain ⟨depth, rfl⟩ := Nat.exists_eq_succ_of_ne_zero (Nat.ne_of_gt room)
    simp [Literal.chars, readValue?, readElements?, skipLayout, isBlank, Literal.value]

theorem skipBlanks_of_not_blank {c : Char} (h : isBlank c = false) :
    skipBlanks (c :: cs) = c :: cs := by
  rw [skipBlanks, List.dropWhile_cons_of_neg (by simp [h])]

theorem isBlank_of_isNumeralChar {c : Char} (h : isNumeralChar c) : isBlank c = false := by
  cases blank : isBlank c with
  | false => rfl
  | true =>
    simp only [isBlank, Bool.or_eq_true, beq_iff_eq] at blank
    obtain rfl | rfl := blank <;> exact absurd h (by decide)

theorem skipBlanks_numeral {v : Value} (chars : ∀ c ∈ cs, isNumeralChar c)
    (h : numeral? cs = some v) : skipBlanks (cs ++ rest) = cs ++ rest := by
  obtain ⟨c, tail, rfl⟩ := exists_cons_of_numeral? h
  exact skipBlanks_of_not_blank (isBlank_of_isNumeralChar (chars c List.mem_cons_self))

/-- No value starts with a blank. -/
theorem skipBlanks_chars {l : Literal} (h : l.InRange) (rest : List Char) :
    skipBlanks (l.chars ++ rest) = l.chars ++ rest := by
  cases l with
  | string text =>
    obtain ⟨tail, eq | eq⟩ := quote_eq_cons text.toList <;>
    · rw [Literal.chars, eq]
      rfl
  | integer n =>
    rw [chars_integer]
    exact skipBlanks_numeral (isNumeralChar_toDigits n) (numeral?_toDigits h)
  | float x => exact skipBlanks_numeral (isNumeralChar_toDecimal x) (numeral?_toDecimal x)
  | boolean b => cases b <;> rfl
  | emptyArray => rfl

theorem not_mem_chars (l : Literal) : '\r' ∉ l.chars := by
  cases l with
  | string text => exact not_mem_quote text.toList
  | integer n =>
    rw [chars_integer]
    exact fun mem => absurd (isNumeralChar_toDigits n _ mem) (by decide)
  | float x => exact fun mem => absurd (isNumeralChar_toDecimal x _ mem) (by decide)
  | boolean b => cases b <;> decide
  | emptyArray => decide

/-! ## Keys -/

/-- The key may be written as it is. -/
structure IsBare (key : String) : Prop where
  nonempty : key.toList ≠ []
  chars : ∀ c ∈ key.toList, isBareKeyChar c

theorem isBare_iff (key : String) :
    (!key.toList.isEmpty && key.toList.all isBareKeyChar) = true ↔ IsBare key := by
  rw [Bool.and_eq_true, Bool.not_eq_true', List.isEmpty_eq_false_iff, List.all_eq_true]
  exact ⟨fun h => ⟨h.1, h.2⟩, fun h => ⟨h.nonempty, h.chars⟩⟩

instance (key : String) : Decidable (IsBare key) := decidable_of_iff _ (isBare_iff key)

theorem isNumeralChar_of_isBareKeyChar {c : Char} (h : isBareKeyChar c) : isNumeralChar c := by
  simp only [isBareKeyChar, Bool.or_eq_true] at h
  simp only [isNumeralChar, Bool.or_eq_true]
  obtain (h | h) | h := h <;> simp [h]

namespace IsBare

variable {key : String}

theorem exists_cons (h : IsBare key) : ∃ c tail, key.toList = c :: tail ∧ isBareKeyChar c := by
  obtain ⟨c, tail, eq⟩ := List.exists_cons_of_ne_nil h.nonempty
  exact ⟨c, tail, eq, h.chars c (eq ▸ List.mem_cons_self)⟩

theorem skipBlanks_append (h : IsBare key) (rest : List Char) :
    skipBlanks (key.toList ++ rest) = key.toList ++ rest := by
  obtain ⟨c, tail, eq, bare⟩ := h.exists_cons
  rw [eq, List.cons_append,
    skipBlanks_of_not_blank (isBlank_of_isNumeralChar (isNumeralChar_of_isBareKeyChar bare))]

theorem readKey?_append (h : IsBare key) {d : Char} (stop : isBareKeyChar d = false)
    (rest : List Char) : readKey? (key.toList ++ d :: rest) = some (key, d :: rest) := by
  have taken : (key.toList ++ d :: rest).takeWhile isBareKeyChar = key.toList := by
    rw [List.takeWhile_append_of_pos h.chars, List.takeWhile_cons_of_neg (by simp [stop]),
      List.append_nil]
  have left : (key.toList ++ d :: rest).dropWhile isBareKeyChar = d :: rest := by
    rw [List.dropWhile_append_of_pos h.chars, List.dropWhile_cons_of_neg (by simp [stop])]
  rw [readKey?, taken, left]
  split
  next nil => exact absurd nil h.nonempty
  · rw [String.ofList_toList]

end IsBare

/-- The path that keys lead along, the last of which is its leaf. -/
def Path.ofKeys (keys : List String) : Path := ⟨keys.dropLast, keys.getLastD ""⟩

theorem readPath?_last {key : String} (h : IsBare key) {d : Char} (stop : isBareKeyChar d = false)
    (rest : List Char) (point : ∀ more, skipBlanks (d :: rest) ≠ '.' :: more) (n : Nat) :
    readPath? (n + 1) (key.toList ++ d :: rest) = some (⟨[], key⟩, skipBlanks (d :: rest)) := by
  simp only [readPath?, h.skipBlanks_append, h.readKey?_append stop, Option.bind_eq_bind,
    Option.bind_some]
  rfl

theorem readPath?_cons {key : String} (h : IsBare key) (n : Nat) :
    readPath? (n + 1) (key.toList ++ '.' :: rest) =
      (readPath? n rest).map fun (path, rest) => (⟨key :: path.parents, path.leaf⟩, rest) := by
  have point : skipBlanks ('.' :: rest) = '.' :: rest := rfl
  simp only [readPath?, h.skipBlanks_append, h.readKey?_append (d := '.') rfl, point,
    Option.bind_eq_bind, Option.bind_some]
  cases readPath? n rest <;> rfl

/-- Keys with points between them are read as the path that they lead along, up to the bracket
that closes a heading. -/
theorem readPath?_intercalate (rest : List Char) {keys : List String} (nonempty : keys ≠ [])
    (bare : ∀ key ∈ keys, IsBare key) {n : Nat} (room : keys.length ≤ n) :
    readPath? n ((".".intercalate keys).toList ++ ']' :: rest) =
      some (.ofKeys keys, ']' :: rest) := by
  induction keys generalizing n with
  | nil => exact absurd rfl nonempty
  | cons key keys ih =>
    have head := bare key List.mem_cons_self
    obtain ⟨n, rfl⟩ := Nat.exists_eq_add_of_lt (Nat.lt_of_lt_of_le (Nat.succ_pos _) room)
    rw [Nat.zero_add]
    cases keys with
    | nil =>
      rw [String.intercalate_singleton]
      exact readPath?_last head rfl rest (fun more eq => by cases eq) n
    | cons key' keys =>
      have tail := ih (List.cons_ne_nil _ _) (fun key mem => bare key (List.mem_cons_of_mem _ mem))
        (n := n) (by simp only [List.length_cons] at room ⊢; omega)
      have dot : ".".toList = ['.'] := rfl
      rw [String.intercalate_cons_cons, String.toList_append, String.toList_append, dot,
        List.append_assoc, List.append_assoc, List.cons_append, List.nil_append,
        readPath?_cons head, tail]
      rfl

theorem intercalate_eq_cons {keys : List String} (nonempty : keys ≠ [])
    (bare : ∀ key ∈ keys, IsBare key) :
    ∃ c tail, (".".intercalate keys).toList = c :: tail ∧ isBareKeyChar c := by
  obtain ⟨key, keys, rfl⟩ := List.exists_cons_of_ne_nil nonempty
  obtain ⟨c, tail, eq, char⟩ := (bare key List.mem_cons_self).exists_cons
  cases keys with
  | nil => exact ⟨c, tail, by rw [String.intercalate_singleton, eq], char⟩
  | cons key' keys =>
    refine ⟨c, tail ++ ".".toList ++ (".".intercalate (key' :: keys)).toList, ?_, char⟩
    rw [String.intercalate_cons_cons, String.toList_append, String.toList_append, eq,
      List.cons_append, List.cons_append]

/-! ## Lines -/

/-- A setting that can be written: its key as it is, and its value in range. -/
structure Readable (setting : String × Literal) : Prop where
  key : IsBare setting.1
  value : setting.2.InRange

theorem Readable.of_mem {settings : Settings} (keys : ∀ key ∈ settings.map Prod.fst, IsBare key)
    (values : ∀ value ∈ settings.map Prod.snd, value.InRange) : ∀ s ∈ settings, Readable s :=
  fun _ mem => ⟨keys _ (List.mem_map_of_mem mem), values _ (List.mem_map_of_mem mem)⟩

def settingLine (setting : String × Literal) : List Char :=
  setting.1.toList ++ [' ', '=', ' '] ++ setting.2.chars ++ ['\n']

/-- What a setting says once it is read. -/
def settingStatement (setting : String × Literal) : Statement :=
  .assignment ⟨[], setting.1⟩ setting.2.value

theorem settingLines_cons (s : String × Literal) (settings : Settings) :
    settingLines (s :: settings) = settingLine s ++ settingLines settings :=
  rfl

theorem settingLine_append (setting : String × Literal) (rest : List Char) :
    settingLine setting ++ rest =
      setting.1.toList ++ ' ' :: '=' :: ' ' :: (setting.2.chars ++ '\n' :: rest) := by
  simp [settingLine]

theorem readAssignment?_setting {setting : String × Literal} (h : Readable setting)
    (rest : List Char) :
    readAssignment? (readValue? maxDepth) (settingLine setting ++ rest) =
      some ((⟨[], setting.1⟩, setting.2.value), '\n' :: rest) := by
  have blank (more : List Char) : skipBlanks (' ' :: more) = skipBlanks more := rfl
  have equals (more : List Char) : skipBlanks (' ' :: '=' :: more) = '=' :: more := rfl
  have path := readPath?_last h.key (d := ' ') rfl
    ('=' :: ' ' :: (setting.2.chars ++ '\n' :: rest)) (fun more eq => by cases eq) 78
  rw [settingLine_append, readAssignment?, show maxDepth = 78 + 1 from rfl, path, equals]
  simp only [Option.bind_eq_bind, Option.bind_some, blank, skipBlanks_chars h.value,
    readValue?_chars h.value (Nat.succ_pos 78)]
  rfl

theorem readStatement?_setting {setting : String × Literal} (h : Readable setting)
    (rest : List Char) :
    readStatement? (settingLine setting ++ rest) = some (settingStatement setting, rest) := by
  have read := readAssignment?_setting h rest
  obtain ⟨c, tail, eq, bare⟩ := h.key.exists_cons
  have heading : c ≠ '[' := fun eq => absurd (eq ▸ bare) (by decide)
  rw [settingLine_append, eq, List.cons_append] at read ⊢
  rw [readStatement?]
  · simp only [read, Option.bind_eq_bind, Option.bind_some, nextLine?]
    rfl
  · exact fun _ eq => heading (List.cons.inj eq).1
  · exact fun _ eq => heading (List.cons.inj eq).1

namespace Heading

def keys : Heading → List String
  | table keys | element keys => keys

/-- A heading that can be written: its keys as they are, and no more than a path may have. -/
structure Readable (h : Heading) : Prop where
  nonempty : h.keys ≠ []
  bare : ∀ key ∈ h.keys, IsBare key
  room : h.keys.length ≤ maxDepth

theorem table_chars (keys : List String) (rest : List Char) :
    (table keys).chars ++ '\n' :: rest =
      '[' :: ((".".intercalate keys).toList ++ ']' :: '\n' :: rest) := by
  simp [chars]

theorem element_chars (keys : List String) (rest : List Char) :
    (element keys).chars ++ '\n' :: rest =
      '[' :: '[' :: ((".".intercalate keys).toList ++ ']' :: ']' :: '\n' :: rest) := by
  simp [chars]

def statement : Heading → Statement
  | table keys => .heading (.ofKeys keys)
  | element keys => .elementHeading (.ofKeys keys)

end Heading

theorem readStatement?_heading {heading : Heading} (h : heading.Readable) (rest : List Char) :
    readStatement? (heading.chars ++ '\n' :: rest) = some (heading.statement, rest) := by
  cases heading with
  | table keys =>
    have path := readPath?_intercalate ('\n' :: rest) h.nonempty h.bare h.room
    obtain ⟨c, tail, eq, bare⟩ := intercalate_eq_cons h.nonempty h.bare
    have element : c ≠ '[' := fun eq => absurd (eq ▸ bare) (by decide)
    rw [Heading.table_chars, readStatement?]
    · simp only [Heading.keys] at path
      simp only [path, Option.bind_eq_bind, Option.bind_some, nextLine?]
      rfl
    · intro more shape
      rw [show (Heading.table keys).keys = keys from rfl] at eq
      rw [eq] at shape
      exact element (List.cons.inj shape).1
  | element keys =>
    have path := readPath?_intercalate (']' :: '\n' :: rest) h.nonempty h.bare h.room
    rw [Heading.element_chars]
    simp only [readStatement?, Heading.keys] at path ⊢
    simp only [path, Option.bind_eq_bind, Option.bind_some, nextLine?]
    rfl

/-! ## Whole documents -/

/-- What the lines of a text say, read with any number of rounds that is enough. -/
def Reads (cs : List Char) (statements : List Statement) : Prop :=
  ∀ n, cs.length < n → readStatements? n cs = some statements

theorem reads_nil : Reads [] [] := by
  intro n h
  obtain ⟨n, rfl⟩ := Nat.exists_eq_succ_of_ne_zero (Nat.ne_of_gt h)
  rfl

namespace Reads

variable {statements : List Statement}

theorem blankLine (h : Reads rest statements) : Reads ('\n' :: rest) statements := by
  intro n long
  cases n with
  | zero => exact absurd long (Nat.not_lt_zero _)
  | succ n => exact h n (Nat.lt_of_succ_lt_succ long)

/-- A statement in front, where its text starts with a character that no other line starts
with and is read up to the next line. -/
theorem cons (h : Reads rest statements) {statement : Statement} {c : Char} {tail : List Char}
    (layout : isBlank c = false ∧ c ≠ '\n' ∧ c ≠ '#')
    (read : readStatement? (c :: tail) = some (statement, rest))
    (shorter : rest.length ≤ tail.length) : Reads (c :: tail) (statement :: statements) := by
  intro n long
  cases n with
  | zero => exact absurd long (Nat.not_lt_zero _)
  | succ n =>
    obtain ⟨blank, lineEnd, comment⟩ := layout
    have more := h n (by rw [List.length_cons] at long; omega)
    rw [readStatements?, skipBlanks_of_not_blank blank]
    split
    next eq => cases eq
    next eq => exact absurd (List.cons.inj eq).1 lineEnd
    next eq => exact absurd (List.cons.inj eq).1 comment
    · simp only [read, more, Option.bind_eq_bind, Option.bind_some]
      rfl

theorem setting (h : Reads rest statements) {setting : String × Literal}
    (readable : Readable setting) :
    Reads (settingLine setting ++ rest) (settingStatement setting :: statements) := by
  have read := readStatement?_setting readable rest
  obtain ⟨c, tail, eq, bare⟩ := readable.key.exists_cons
  rw [settingLine_append, eq, List.cons_append] at read ⊢
  refine h.cons ⟨?_, ?_, ?_⟩ read ?_
  · exact isBlank_of_isNumeralChar (isNumeralChar_of_isBareKeyChar bare)
  · exact fun eq => absurd (eq ▸ bare) (by decide)
  · exact fun eq => absurd (eq ▸ bare) (by decide)
  · simp only [List.length_append, List.length_cons]
    omega

theorem heading (h : Reads rest statements) {heading : Heading} (readable : heading.Readable) :
    Reads (heading.chars ++ '\n' :: rest) (heading.statement :: statements) := by
  have read := readStatement?_heading readable rest
  cases heading with
  | table keys =>
    rw [Heading.table_chars] at read ⊢
    refine h.cons ⟨rfl, by decide, by decide⟩ read ?_
    simp only [List.length_append, List.length_cons]
    omega
  | element keys =>
    rw [Heading.element_chars] at read ⊢
    refine h.cons ⟨rfl, by decide, by decide⟩ read ?_
    simp only [List.length_append, List.length_cons]
    omega

theorem settings (h : Reads rest statements) {settings : Settings}
    (readable : ∀ s ∈ settings, Readable s) :
    Reads (settingLines settings ++ rest) (settings.map settingStatement ++ statements) := by
  induction settings with
  | nil => exact h
  | cons s settings ih =>
    have tail := ih fun t mem => readable t (List.mem_cons_of_mem s mem)
    rw [settingLines_cons, List.append_assoc]
    exact tail.setting (readable s List.mem_cons_self)

end Reads

namespace Section

/-- A section whose heading and settings can be written. -/
structure Readable (s : Section) : Prop where
  heading : s.heading.Readable
  settings : ∀ t ∈ s.settings, Toml.Readable t

def statements (s : Section) : List Statement :=
  s.heading.statement :: s.settings.map settingStatement

end Section

theorem Reads.sections {sections : List Section} (readable : ∀ s ∈ sections, s.Readable) :
    Reads (sections.flatMap Section.lines) (sections.flatMap Section.statements) := by
  induction sections with
  | nil => exact reads_nil
  | cons s sections ih =>
    have tail := ih fun t mem => readable t (List.mem_cons_of_mem s mem)
    have own := readable s List.mem_cons_self
    have lines : (s :: sections).flatMap Section.lines = '\n' :: (s.heading.chars ++
        '\n' :: (settingLines s.settings ++ sections.flatMap Section.lines)) := by
      simp [Section.lines]
    rw [lines]
    exact ((tail.settings own.settings).heading own.heading).blankLine

/-! Line ends are plain line feeds: no part of a document holds a carriage return. -/

theorem unifyLineEnds_of_not_mem (h : '\r' ∉ cs) : unifyLineEnds cs = cs := by
  induction cs with
  | nil => rfl
  | cons c cs ih =>
    rw [List.mem_cons, not_or] at h
    rw [unifyLineEnds, ih h.2]
    exact fun _ eq => absurd eq.symm h.1

theorem IsBare.not_mem {key : String} (h : IsBare key) : '\r' ∉ key.toList :=
  fun mem => absurd (h.chars _ mem) (by decide)

theorem not_mem_intercalate {keys : List String} (bare : ∀ key ∈ keys, IsBare key) :
    '\r' ∉ (".".intercalate keys).toList := by
  induction keys with
  | nil => exact List.not_mem_nil
  | cons key keys ih =>
    have head := (bare key List.mem_cons_self).not_mem
    have tail := ih fun k mem => bare k (List.mem_cons_of_mem key mem)
    cases keys with
    | nil => rwa [String.intercalate_singleton]
    | cons key' keys =>
      have dot : ".".toList = ['.'] := rfl
      rw [String.intercalate_cons_cons, String.toList_append, String.toList_append, dot,
        List.mem_append, List.mem_append, not_or, not_or]
      exact ⟨⟨head, by decide⟩, tail⟩

theorem Heading.not_mem_chars {h : Heading} (readable : h.Readable) : '\r' ∉ h.chars := by
  have keys := not_mem_intercalate readable.bare
  cases h with
  | table path => simpa [chars, Heading.keys] using keys
  | element path => simpa [chars, Heading.keys] using keys

theorem not_mem_settingLines {settings : Settings} (readable : ∀ s ∈ settings, Readable s) :
    '\r' ∉ settingLines settings := by
  intro mem
  obtain ⟨s, own, mem⟩ := List.mem_flatMap.1 mem
  have key := (readable s own).key.not_mem
  have value := not_mem_chars s.2
  simp [key, value] at mem

theorem Section.not_mem_lines {s : Section} (h : s.Readable) : '\r' ∉ s.lines := by
  have heading := Heading.not_mem_chars h.heading
  have settings := not_mem_settingLines h.settings
  simp [lines, heading, settings]

/-- A document of settings and sections that can be written is read as the table that its
lines build in order. -/
theorem parse?_render {settings : Settings} {sections : List Section} (nonempty : settings ≠ [])
    (settingsReadable : ∀ s ∈ settings, Readable s)
    (sectionsReadable : ∀ s ∈ sections, s.Readable) :
    parse? (render settings sections) =
      (build (settings.map settingStatement ++ sections.flatMap Section.statements) [] []).map
        entriesToValues := by
  have reads := (Reads.sections sectionsReadable).settings settingsReadable
  have plain : '\r' ∉ settingLines settings ++ sections.flatMap Section.lines := by
    rw [List.mem_append, not_or]
    refine ⟨not_mem_settingLines settingsReadable, fun mem => ?_⟩
    obtain ⟨s, own, mem⟩ := List.mem_flatMap.1 mem
    exact Section.not_mem_lines (sectionsReadable s own) mem
  have unmarked : dropByteOrderMark (settingLines settings ++ sections.flatMap Section.lines) =
      settingLines settings ++ sections.flatMap Section.lines := by
    obtain ⟨s, settings, rfl⟩ := List.exists_cons_of_ne_nil nonempty
    obtain ⟨c, tail, eq, bare⟩ := (settingsReadable s List.mem_cons_self).key.exists_cons
    have mark : c ≠ '\ufeff' := fun eq => absurd (eq ▸ bare) (by decide)
    rw [settingLines_cons, List.append_assoc, settingLine_append, eq, List.cons_append,
      dropByteOrderMark]
    exact fun _ shape => mark (List.cons.inj shape).1
  rw [parse?, render, String.toList_ofList, unmarked, unifyLineEnds_of_not_mem plain]
  simp only [reads _ (Nat.lt_succ_self _), Option.bind_eq_bind, Option.bind_some]
  cases build _ [] [] <;> rfl

end Toml
end WrenchLink

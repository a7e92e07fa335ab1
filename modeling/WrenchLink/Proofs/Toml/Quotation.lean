/-
Quoted strings read back.

Whatever style a text is written in, reading its quoted form gives the text again, and what
stands behind it, a line end, is left.  Where escapes count, each character is written in a
form that reads back as that character alone; quotes that stand as they are need the
characters behind them, since three in a row close the string.
-/
import WrenchLink.Toml.Quotation

namespace WrenchLink
namespace Toml

variable {c : Char} {multi : Bool} {text rest : List Char}

/-! ## One character where escapes count -/

theorem basicBody_plain (plain : isPlain c) (quote : c ≠ '"') (backslash : c ≠ '\\') :
    basicBody multi .text (c :: rest) = prepend c (basicBody multi .text rest) := by
  simp [basicBody, plain, quote, backslash]

theorem basicBody_lineEnd :
    basicBody true .text ('\n' :: rest) = prepend '\n' (basicBody true .text rest) := by
  simp [basicBody]

theorem digit?_toUpper : ∀ d < 16, Text.digit? 16 (Nat.digitChar d).toUpper = some d := by
  decide

theorem charOfCode?_toNat (c : Char) : charOfCode? c.toNat = some c := by
  rw [charOfCode?, dif_pos (show c.toNat.isValidChar from c.valid)]
  rfl

/-- Four hexadecimal digits are read as the character with that code. -/
theorem basicBody_fourDigits (multi : Bool) (small : c.toNat < 65536) (rest : List Char) :
    basicBody multi (.code 4 0) (fourDigits c.toNat ++ rest) =
      prepend c (basicBody multi .text rest) := by
  have digit (n : Nat) : Text.digit? 16 (Nat.digitChar (n % 16)).toUpper = some (n % 16) :=
    digit?_toUpper _ (Nat.mod_lt n (by decide))
  have code : 16 * (16 * (16 * (c.toNat / 4096 % 16) + c.toNat / 256 % 16) +
      c.toNat / 16 % 16) + c.toNat % 16 = c.toNat := by
    omega
  simp [fourDigits, basicBody, digit, code, charOfCode?_toNat]

theorem toNat_lt_of_isControl (h : isControl c) : c.toNat < 65536 := by
  apply Nat.lt_of_not_le
  intro large
  have delete : c ≠ '\x7f' := by
    intro eq
    rw [eq] at large
    exact absurd large (by decide)
  have visible : 0x20 ≤ c.toNat := Nat.le_trans (by decide) large
  simp [isControl, isPlain, delete, visible] at h

/-- An escape names the character by a letter or a mark, or a control by its code. -/
theorem escaped?_cases {form : List Char} (h : escaped? c = some form) :
    (∃ d, d ≠ '\r' ∧ escapeMeaning? d = some c ∧ form = ['\\', d]) ∨
      isControl c ∧ form = '\\' :: 'u' :: fourDigits c.toNat := by
  unfold escaped? at h
  split at h
  iterate 7 exact .inl ⟨_, by decide, rfl, (Option.some.inj h).symm⟩
  split at h
  next control => exact .inr ⟨control, (Option.some.inj h).symm⟩
  · cases h

theorem basicBody_escaped {form : List Char} (h : escaped? c = some form) :
    basicBody multi .text (form ++ rest) = prepend c (basicBody multi .text rest) := by
  obtain ⟨d, -, meaning, rfl⟩ | ⟨control, rfl⟩ := escaped?_cases h
  · simp [basicBody, meaning]
  · rw [← basicBody_fourDigits multi (toNat_lt_of_isControl control)]
    simp [basicBody, escapeMeaning?]

theorem of_escaped?_eq_none (h : escaped? c = none) :
    isPlain c ∧ c ≠ '"' ∧ c ≠ '\\' ∧ c ≠ '\n' ∧ c ≠ '\r' := by
  unfold escaped? at h
  split at h
  iterate 7 cases h
  split at h
  · cases h
  next =>
    simp_all [isControl]

/-- How a character is written where it is not a quote that stands as it is. -/
def form (multi : Bool) (c : Char) : List Char :=
  if multi && c == '\n' then [c] else (escaped? c).getD [c]

theorem escapeBody_cons {quotes run : Nat} (h : (c == '"' && run < quotes) = false) :
    escapeBody multi quotes run (c :: text) = form multi c ++ escapeBody multi quotes 0 text := by
  rw [escapeBody, h, if_neg Bool.false_ne_true, form]
  split
  · rfl
  · cases escaped? c <;> rfl

theorem basicBody_form :
    basicBody multi .text (form multi c ++ rest) = prepend c (basicBody multi .text rest) := by
  rw [form]
  split
  next h =>
    simp only [Bool.and_eq_true, beq_iff_eq] at h
    rw [h.1, h.2]
    exact basicBody_lineEnd
  next =>
    cases h : escaped? c with
    | some form => exact basicBody_escaped h
    | none =>
      obtain ⟨plain, quote, backslash, -⟩ := of_escaped?_eq_none h
      exact basicBody_plain plain quote backslash

/-- A backslash or the character itself comes first. -/
theorem form_eq_cons (multi : Bool) (c : Char) :
    ∃ d tail, form multi c = d :: tail ∧ d ≠ '"' ∧ (d = '\n' → c = '\n') := by
  rw [form]
  split
  next h =>
    simp only [Bool.and_eq_true, beq_iff_eq] at h
    exact ⟨c, [], rfl, by rw [h.2]; decide, id⟩
  next =>
    cases h : escaped? c with
    | some form =>
      have backslash : ('\\' : Char) ≠ '"' ∧ ('\\' = '\n' → c = '\n') := by simp
      obtain ⟨d, -, -, rfl⟩ | ⟨-, rfl⟩ := escaped?_cases h
      · exact ⟨_, _, rfl, backslash⟩
      · exact ⟨_, _, rfl, backslash⟩
    | none => exact ⟨c, [], rfl, (of_escaped?_eq_none h).2.1, id⟩

theorem not_mem_fourDigits (n : Nat) : '\r' ∉ fourDigits n := by
  have digit : ∀ d < 16, '\r' ≠ (Nat.digitChar d).toUpper := by decide
  have digit (n : Nat) : '\r' ≠ (Nat.digitChar (n % 16)).toUpper :=
    digit _ (Nat.mod_lt n (by decide))
  simp [fourDigits, digit]

theorem not_mem_form (multi : Bool) (c : Char) : '\r' ∉ form multi c := by
  rw [form]
  split
  next h =>
    simp only [Bool.and_eq_true, beq_iff_eq] at h
    rw [h.2]
    decide
  next =>
    cases h : escaped? c with
    | none =>
      have := (of_escaped?_eq_none h).2.2.2.2
      simp [Ne.symm this]
    | some form =>
      obtain ⟨d, plain, -, rfl⟩ | ⟨-, rfl⟩ := escaped?_cases h
      · simp [Ne.symm plain]
      · simp [not_mem_fourDigits]

/-! ## A whole text where escapes count -/

/-- A text on one line is read up to the first quote that is not escaped. -/
theorem basicBody_escapeBody (text rest : List Char) :
    basicBody false .text (escapeBody false 0 0 text ++ '"' :: rest) = some (text, rest) := by
  induction text with
  | nil => rfl
  | cons c text ih =>
    rw [escapeBody_cons (by simp), List.append_assoc, basicBody_form, ih]
    rfl

/-- What stands behind a string is no further quote. -/
def Ends (quote : Char) (rest : List Char) : Prop := ∀ more, rest ≠ quote :: more

theorem closingQuotes_none {quote : Char} (h : Ends quote rest) :
    closingQuotes quote rest = ([], rest) := by
  cases rest with
  | nil => rfl
  | cons a rest =>
    have : a ≠ quote := fun eq => h rest (by rw [eq])
    cases rest <;> simp [closingQuotes, this]

theorem closingQuotes_one {quote : Char} (h : Ends quote rest) :
    closingQuotes quote (quote :: rest) = ([quote], rest) := by
  cases rest with
  | nil => simp [closingQuotes]
  | cons a rest =>
    have : a ≠ quote := fun eq => h rest (by rw [eq])
    simp [closingQuotes, this]

theorem closingQuotes_two (quote : Char) (rest : List Char) :
    closingQuotes quote (quote :: quote :: rest) = ([quote, quote], rest) := by
  simp [closingQuotes]

/-- A reader of strings between three quotes: it ends at three in a row, and takes a quote
that does not start such a row as it is. -/
structure ReadsLines (quote : Char) (read : List Char → Option (List Char × List Char)) : Prop where
  close : ∀ rest, read (quote :: quote :: quote :: rest) = some (closingQuotes quote rest)
  own : ∀ rest, (∀ more, rest ≠ quote :: quote :: more) →
    read (quote :: rest) = prepend quote (read rest)

/-- What is written of a string behind one of its quotes: nothing, one more, or something that
does not start with two. -/
def FewQuotes (quote : Char) (written rest : List Char) : Prop :=
  written = [] ∨ written = [quote] ∨
    ∀ more, written ++ quote :: quote :: quote :: rest ≠ quote :: quote :: more

/-- One more quote in front of a text that is read, also where it joins the closing ones. -/
theorem ReadsLines.cons_quote {quote : Char} {read : List Char → Option (List Char × List Char)}
    (h : ReadsLines quote read) (ends : Ends quote rest) {written : List Char}
    (tail : read (written ++ quote :: quote :: quote :: rest) = some (text, rest))
    (few : FewQuotes quote written rest) :
    read (quote :: (written ++ quote :: quote :: quote :: rest)) = some (quote :: text, rest) := by
  obtain rfl | rfl | apart := few
  · rw [List.nil_append, h.close, closingQuotes_none ends] at tail
    cases tail
    rw [List.nil_append, h.close, closingQuotes_one ends]
  · rw [List.singleton_append, h.close, closingQuotes_one ends] at tail
    cases tail
    rw [List.singleton_append, h.close, closingQuotes_two]
  · rw [h.own _ apart, tail]
    rfl

theorem readsLines_basicBody : ReadsLines '"' (basicBody true .text) where
  close rest := by simp [basicBody]
  own rest apart := by
    rw [basicBody]
    · rfl
    · exact fun eq => by cases eq
    · exact fun _ _ eq => by cases eq
    · exact fun eq => by cases eq
    · exact apart

theorem ends_escapeBody_cons {quotes run : Nat} (h : (c == '"' && run < quotes) = false)
    (text rest : List Char) : Ends '"' (escapeBody multi quotes run (c :: text) ++ rest) := by
  intro more eq
  obtain ⟨d, tail, shape, quote, -⟩ := form_eq_cons multi c
  rw [escapeBody_cons h, shape] at eq
  exact quote (List.cons.inj eq).1

theorem escapeBody_quote {run : Nat} (room : run < 2) (text : List Char) :
    escapeBody true 2 run ('"' :: text) = '"' :: escapeBody true 2 (run + 1) text := by
  simp [escapeBody, room]

theorem fewQuotes_escapeBody {run : Nat} (behind : 0 < run) (text rest : List Char) :
    FewQuotes '"' (escapeBody true 2 run text) rest := by
  cases text with
  | nil => exact .inl rfl
  | cons c text =>
    cases own : c == '"' && decide (run < 2) with
    | false => exact .inr (.inr fun more eq => ends_escapeBody_cons own text _ _ eq)
    | true =>
      simp only [Bool.and_eq_true, beq_iff_eq, decide_eq_true_eq] at own
      obtain ⟨rfl, room⟩ := own
      rw [escapeBody_quote room]
      cases text with
      | nil => exact .inr (.inl rfl)
      | cons d text =>
        have full : (d == '"' && decide (run + 1 < 2)) = false := by
          rw [decide_eq_false (by omega), Bool.and_false]
        exact .inr (.inr fun more eq => ends_escapeBody_cons full text _ _ (List.cons.inj eq).2)

/-- A text with up to two quotes in a row as they are is read up to the three that close
it, whether or not some of its own stand right in front of them. -/
theorem basicBody_escapeBody_lines (ends : Ends '"' rest) (run : Nat) (text : List Char) :
    basicBody true .text (escapeBody true 2 run text ++ '"' :: '"' :: '"' :: rest) =
      some (text, rest) := by
  induction text generalizing run with
  | nil =>
    rw [escapeBody, List.nil_append, readsLines_basicBody.close, closingQuotes_none ends]
  | cons c text ih =>
    cases own : c == '"' && decide (run < 2) with
    | false =>
      rw [escapeBody_cons own, List.append_assoc, basicBody_form, ih]
      rfl
    | true =>
      simp only [Bool.and_eq_true, beq_iff_eq, decide_eq_true_eq] at own
      obtain ⟨rfl, room⟩ := own
      rw [escapeBody_quote room, List.cons_append]
      exact readsLines_basicBody.cons_quote ends (ih (run + 1))
        (fewQuotes_escapeBody (Nat.succ_pos run) text rest)

/-! ## Texts that stand as they are -/

theorem literalBody_plain (plain : isPlain c || multi && c == '\n') (quote : c ≠ '\'') :
    literalBody multi (c :: rest) = prepend c (literalBody multi rest) := by
  simp [literalBody, quote, plain]

theorem readsLines_literalBody : ReadsLines '\'' (literalBody true) where
  close rest := by simp [literalBody]
  own rest apart := by
    rw [literalBody]
    · rfl
    · exact apart

theorem le_longestRun (c : Char) (text : List Char) (run : Nat) : run ≤ longestRun c text run := by
  induction text generalizing run with
  | nil => exact Nat.le_refl run
  | cons d text ih =>
    rw [longestRun]
    split
    · exact Nat.le_trans (Nat.le_succ run) (ih (run + 1))
    · exact Nat.le_max_left ..

/-- A text without single quotes is read up to the first one behind it. -/
theorem literalBody_of_not_mem (plain : ∀ c ∈ text, isPlain c) (quote : '\'' ∉ text)
    (rest : List Char) : literalBody false (text ++ '\'' :: rest) = some (text, rest) := by
  induction text with
  | nil => rfl
  | cons c text ih =>
    have own : c ≠ '\'' := fun eq => quote (eq ▸ List.mem_cons_self)
    rw [List.cons_append, literalBody_plain (by simp [plain c List.mem_cons_self]) own,
      ih (fun d mem => plain d (List.mem_cons_of_mem c mem))
        fun mem => quote (List.mem_cons_of_mem c mem)]
    rfl

theorem fewQuotes_of_longestRun {run : Nat} (behind : 0 < run)
    (few : longestRun '\'' text run ≤ 2) (rest : List Char) : FewQuotes '\'' text rest := by
  cases text with
  | nil => exact .inl rfl
  | cons c text =>
    by_cases own : c = '\''
    · cases text with
      | nil => exact .inr (.inl (by rw [own]))
      | cons d text =>
        refine .inr (.inr fun more eq => ?_)
        have second : d = '\'' := (List.cons.inj (List.cons.inj eq).2).1
        rw [longestRun, if_pos own, longestRun, if_pos second] at few
        have := Nat.le_trans (le_longestRun _ text _) few
        omega
    · exact .inr (.inr fun more eq => own (List.cons.inj eq).1)

/-- A text with at most two single quotes in a row, `run` of them in front of it, is read up
to the three that close it. -/
theorem literalBody_lines (ends : Ends '\'' rest) {run : Nat}
    (plain : ∀ c ∈ text, isPlain c || c == '\n') (few : longestRun '\'' text run ≤ 2) :
    literalBody true (text ++ '\'' :: '\'' :: '\'' :: rest) = some (text, rest) := by
  induction text generalizing run with
  | nil => rw [List.nil_append, readsLines_literalBody.close, closingQuotes_none ends]
  | cons c text ih =>
    have front := plain c List.mem_cons_self
    have tail {run : Nat} := @ih run fun d mem => plain d (List.mem_cons_of_mem c mem)
    rw [longestRun] at few
    by_cases own : c = '\''
    · rw [if_pos own] at few
      rw [own, List.cons_append]
      exact readsLines_literalBody.cons_quote ends (tail few)
        (fewQuotes_of_longestRun (Nat.succ_pos run) few rest)
    · rw [if_neg own] at few
      rw [List.cons_append, literalBody_plain front own,
        tail (Nat.le_trans (Nat.le_max_right ..) few)]
      rfl

/-! ## The chosen style -/

theorem not_mem_of_longestRun (h : longestRun c text 0 = 0) : c ∉ text := by
  induction text with
  | nil => exact List.not_mem_nil
  | cons d text ih =>
    rw [longestRun] at h
    by_cases own : d = c
    · rw [if_pos own] at h
      exact absurd (h ▸ le_longestRun c text (0 + 1)) (by decide)
    · rw [if_neg own] at h
      rw [List.mem_cons, not_or]
      exact ⟨Ne.symm own, ih (by omega)⟩

theorem plain_of_no_controls (h : text.any isControl = false) :
    ∀ c ∈ text, isPlain c || c == '\n' := by
  intro c mem
  have visible := List.any_eq_false.1 h c mem
  rw [isControl, Bool.not_eq_true, Bool.not_eq_false'] at visible
  exact visible

/-- A text is only written between single quotes on one line if all of it may stand there. -/
theorem of_choose_literal (h : Style.choose text = .literal) :
    (∀ c ∈ text, isPlain c) ∧ '\'' ∉ text := by
  simp only [Style.choose] at h
  split at h
  · cases h
  split at h
  next fits =>
    simp only [Bool.and_eq_true, Bool.not_eq_true', beq_iff_eq] at fits
    obtain ⟨⟨controls, singles⟩, lineEnds⟩ := fits
    refine ⟨fun c mem => ?_, not_mem_of_longestRun singles⟩
    have lineEnd : c ≠ '\n' := fun eq => by
      rw [← eq, List.contains_eq_mem, decide_eq_false_iff_not] at lineEnds
      exact lineEnds mem
    simpa [lineEnd] using plain_of_no_controls controls c mem
  repeat' split at h
  all_goals cases h

theorem of_choose_literalLines (h : Style.choose text = .literalLines) :
    (∀ c ∈ text, isPlain c || c == '\n') ∧ longestRun '\'' text 0 ≤ 2 := by
  simp only [Style.choose] at h
  iterate 3
    split at h
    · cases h
  split at h
  next fits =>
    simp only [Bool.and_eq_true, Bool.not_eq_true', decide_eq_true_eq] at fits
    exact ⟨plain_of_no_controls fits.1, fits.2⟩
  split at h
  all_goals cases h

/-- The line end in front of a text that has line ends is dropped, and no other. -/
theorem dropLineEnd_lead {body : List Char} (h : ∀ more, body = '\n' :: more → '\n' ∈ text) :
    dropLineEnd ((if text.contains '\n' then ['\n'] else []) ++ body) = body := by
  split
  next => rfl
  next none =>
    rw [List.nil_append, dropLineEnd]
    intro more eq
    exact none (by simpa using h more eq)

theorem ends_lineEnd {quote : Char} (h : '\n' ≠ quote) (rest : List Char) :
    Ends quote ('\n' :: rest) :=
  fun _ eq => h (List.cons.inj eq).1

/-! ## Any style -/

theorem readString?_basic (text rest : List Char) :
    readString? (quoteAs .basic text ++ '\n' :: rest) =
      some (String.ofList text, '\n' :: rest) := by
  have quoted : quoteAs .basic text ++ '\n' :: rest =
      '"' :: (escapeBody false 0 0 text ++ '"' :: '\n' :: rest) := by
    simp [quoteAs]
  have single : ∀ more,
      '"' :: (escapeBody false 0 0 text ++ '"' :: '\n' :: rest) ≠ '"' :: '"' :: '"' :: more := by
    intro more eq
    have behind := (List.cons.inj eq).2
    cases text with
    | nil => exact absurd (List.cons.inj (List.cons.inj behind).2).1 (by decide)
    | cons c text => exact ends_escapeBody_cons (by simp) text _ _ behind
  rw [quoted, readString?]
  · simp only [readLine?, basicBody_escapeBody]
    rfl
  · exact single
  · exact fun _ eq => by cases eq

theorem readString?_literal (plain : ∀ c ∈ text, isPlain c) (quote : '\'' ∉ text)
    (rest : List Char) : readString? (quoteAs .literal text ++ '\n' :: rest) =
      some (String.ofList text, '\n' :: rest) := by
  have quoted : quoteAs .literal text ++ '\n' :: rest =
      '\'' :: (text ++ '\'' :: '\n' :: rest) := by
    simp [quoteAs]
  have single : ∀ more,
      '\'' :: (text ++ '\'' :: '\n' :: rest) ≠ '\'' :: '\'' :: '\'' :: more := by
    intro more eq
    have behind := (List.cons.inj eq).2
    cases text with
    | nil => exact absurd (List.cons.inj (List.cons.inj behind).2).1 (by decide)
    | cons c text => exact quote ((List.cons.inj behind).1 ▸ List.mem_cons_self)
  rw [quoted, readString?]
  · simp only [readLine?, literalBody_of_not_mem plain quote]
    rfl
  · exact fun _ eq => by cases eq
  · exact single

theorem readString?_basicLines (text rest : List Char) :
    readString? (quoteAs .basicLines text ++ '\n' :: rest) =
      some (String.ofList text, '\n' :: rest) := by
  have quoted : quoteAs .basicLines text ++ '\n' :: rest =
      '"' :: '"' :: '"' :: ((if text.contains '\n' then ['\n'] else []) ++
        (escapeBody true 2 0 text ++ '"' :: '"' :: '"' :: '\n' :: rest)) := by
    simp [quoteAs]
  have lead : dropLineEnd ((if text.contains '\n' then ['\n'] else []) ++
      (escapeBody true 2 0 text ++ '"' :: '"' :: '"' :: '\n' :: rest)) =
      escapeBody true 2 0 text ++ '"' :: '"' :: '"' :: '\n' :: rest := by
    apply dropLineEnd_lead
    intro more eq
    cases text with
    | nil => exact absurd (List.cons.inj eq).1 (by decide)
    | cons c text =>
      by_cases own : c = '"'
      · rw [own, escapeBody_quote (by decide)] at eq
        exact absurd (List.cons.inj eq).1 (by decide)
      · obtain ⟨d, tail, shape, -, lineEnd⟩ := form_eq_cons true c
        rw [escapeBody_cons (by simp [own]), shape] at eq
        exact lineEnd (List.cons.inj eq).1 ▸ List.mem_cons_self
  rw [quoted, readString?, lead, basicBody_escapeBody_lines (ends_lineEnd (by decide) rest)]
  rfl

theorem readString?_literalLines (plain : ∀ c ∈ text, isPlain c || c == '\n')
    (few : longestRun '\'' text 0 ≤ 2) (rest : List Char) :
    readString? (quoteAs .literalLines text ++ '\n' :: rest) =
      some (String.ofList text, '\n' :: rest) := by
  have quoted : quoteAs .literalLines text ++ '\n' :: rest =
      '\'' :: '\'' :: '\'' :: ((if text.contains '\n' then ['\n'] else []) ++
        (text ++ '\'' :: '\'' :: '\'' :: '\n' :: rest)) := by
    simp [quoteAs]
  have lead : dropLineEnd ((if text.contains '\n' then ['\n'] else []) ++
      (text ++ '\'' :: '\'' :: '\'' :: '\n' :: rest)) =
      text ++ '\'' :: '\'' :: '\'' :: '\n' :: rest := by
    apply dropLineEnd_lead
    intro more eq
    cases text with
    | nil => exact absurd (List.cons.inj eq).1 (by decide)
    | cons c text => exact (List.cons.inj eq).1 ▸ List.mem_cons_self
  rw [quoted, readString?, lead, literalBody_lines (ends_lineEnd (by decide) rest) plain few]
  rfl

/-- Every text reads back from its quoted form. -/
theorem readString?_quote (text rest : List Char) :
    readString? (quote text ++ '\n' :: rest) = some (String.ofList text, '\n' :: rest) := by
  rw [quote]
  cases style : Style.choose text with
  | basic => exact readString?_basic text rest
  | literal =>
    obtain ⟨plain, quote⟩ := of_choose_literal style
    exact readString?_literal plain quote rest
  | basicLines => exact readString?_basicLines text rest
  | literalLines =>
    obtain ⟨plain, few⟩ := of_choose_literalLines style
    exact readString?_literalLines plain few rest

theorem not_mem_escapeBody (multi : Bool) (quotes run : Nat) (text : List Char) :
    '\r' ∉ escapeBody multi quotes run text := by
  induction text generalizing run with
  | nil => exact List.not_mem_nil
  | cons c text ih =>
    cases own : c == '"' && decide (run < quotes) with
    | false =>
      rw [escapeBody_cons own, List.mem_append, not_or]
      exact ⟨not_mem_form multi c, ih 0⟩
    | true =>
      rw [escapeBody, own, if_pos rfl, List.mem_cons, not_or]
      simp only [Bool.and_eq_true, beq_iff_eq] at own
      exact ⟨own.1 ▸ by decide, ih (run + 1)⟩

/-- No quoted form holds a carriage return, whose meaning would depend on its neighbours. -/
theorem not_mem_quote (text : List Char) : '\r' ∉ quote text := by
  have body (multi : Bool) (quotes : Nat) := not_mem_escapeBody multi quotes 0 text
  rw [quote]
  cases style : Style.choose text with
  | basic => simp [quoteAs, body]
  | literal =>
    have plain := (of_choose_literal style).1
    have own : '\r' ∉ text := fun mem => absurd (plain _ mem) (by decide)
    simp [quoteAs, own]
  | basicLines => simp [quoteAs, body]
  | literalLines =>
    have plain := (of_choose_literalLines style).1
    have own : '\r' ∉ text := fun mem => absurd (plain _ mem) (by decide)
    simp [quoteAs, own]

end Toml
end WrenchLink

/-
Numbers of a document read back.

The digits of a natural number are read as that number, and the text of a floating-point
number as that number again, all the patterns that are not numbers coming back as one.
What stands behind a number on its line is a line end.
-/
import WrenchLink.Proofs.Number.Decimal
import WrenchLink.Toml.Numeral

namespace WrenchLink

namespace Text

theorem split_of_not_mem {separator : Char} {cs : List Char} (h : separator ∉ cs) :
    split separator cs = [cs] := by
  induction cs with
  | nil => rfl
  | cons c cs ih =>
    rw [List.mem_cons, not_or] at h
    rw [split, if_neg (Ne.symm h.1), ih h.2]

end Text

namespace Toml

variable {cs : List Char}

/-! ## Digits -/

theorem ne_of_isDigit {c d : Char} (h : c.isDigit) (hd : d.isDigit = false) : c ≠ d := by
  intro eq
  rw [eq, hd] at h
  exact Bool.false_ne_true h

theorem not_mem_of_isDigit {d : Char} (h : ∀ c ∈ cs, c.isDigit) (hd : d.isDigit = false) :
    d ∉ cs :=
  fun mem => ne_of_isDigit (h d mem) hd rfl

theorem digit?_of_isDigit {c : Char} (h : c.isDigit) : Text.digit? 10 c = some (c.toNat - 48) := by
  obtain ⟨low, high⟩ := Char.isDigit_iff_toNat.1 h
  have range : '0' ≤ c ∧ c ≤ '9' := ⟨low, high⟩
  have zero : '0'.toNat = 48 := rfl
  have nine : '9'.toNat = 57 := rfl
  rw [Text.digit?, Text.digitValue?, if_pos range, zero, Option.filter_some, if_pos]
  exact decide_eq_true (by omega)

theorem mapM_digit?_of_isDigit (h : ∀ c ∈ cs, c.isDigit) :
    cs.mapM (Text.digit? 10) = some (cs.map fun c => c.toNat - 48) := by
  induction cs with
  | nil => rfl
  | cons c cs ih =>
    rw [List.mapM_cons, digit?_of_isDigit (h c List.mem_cons_self),
      ih fun d mem => h d (List.mem_cons_of_mem c mem)]
    rfl

theorem digits?_of_isDigit (nonempty : cs ≠ []) (h : ∀ c ∈ cs, c.isDigit) :
    digits? 10 cs = some (cs.map fun c => c.toNat - 48) := by
  have separator : '_' ∉ cs := not_mem_of_isDigit h rfl
  have some_digit : cs.isEmpty = false := List.isEmpty_eq_false_iff.2 nonempty
  simp [digits?, Text.split_of_not_mem separator, some_digit, mapM_digit?_of_isDigit h]

theorem digitsValue_map (cs : List Char) :
    Text.digitsValue 10 (cs.map fun c => c.toNat - 48) = Nat.ofDigitChars 10 cs 0 := by
  rw [Text.digitsValue, List.foldl_map, Nat.ofDigitChars_eq_foldl]
  rfl

/-! ## What numbers are not -/

theorem afterDate?_of_not_mem (h : '-' ∉ cs.tail) : afterDate? cs = none := by
  unfold afterDate?
  split
  · simp at h
  · rfl

theorem afterTime?_of_not_mem (h : ':' ∉ cs) : afterTime? cs = none := by
  unfold afterTime?
  split
  · simp at h
  · rfl

theorem isDateTime_of_not_mem (date : '-' ∉ cs.tail) (time : ':' ∉ cs) : isDateTime cs = false := by
  rw [isDateTime, afterDate?_of_not_mem date, afterTime?_of_not_mem time]
  rfl

theorem sign_signMark (negative : Bool) {c : Char} (h : c.isDigit) :
    sign (signMark negative ++ c :: cs) = (negative, c :: cs) := by
  cases negative with
  | true => rfl
  | false => simp [signMark, sign, ne_of_isDigit h (d := '+') rfl, ne_of_isDigit h (d := '-') rfl]

theorem ne_word (negative : Bool) {c d : Char} (h : c.isDigit) (hd : d.isDigit = false)
    (minus : '-' ≠ d) (word : List Char) : signMark negative ++ c :: cs ≠ d :: word := by
  intro eq
  cases negative with
  | true => exact minus (List.cons.inj eq).1
  | false => exact ne_of_isDigit h hd (List.cons.inj eq).1

theorem special?_signMark (negative : Bool) {c : Char} (h : c.isDigit) :
    special? (signMark negative ++ c :: cs) = none := by
  have inf : c :: cs ≠ ['i', 'n', 'f'] := ne_word false h rfl (by decide) _
  have nan : c :: cs ≠ ['n', 'a', 'n'] := ne_word false h rfl (by decide) _
  simp only [special?, sign_signMark negative h, if_neg inf, if_neg nan]

theorem cut_of_forall {p : Char → Bool} (h : ∀ c ∈ cs, p c = false) : cut p cs = (cs, none) := by
  have front : ∀ c ∈ cs, (!p c) = true := by simpa using h
  have left : (cs ++ []).dropWhile (!p ·) = [] := List.dropWhile_append_of_pos front
  rw [List.append_nil] at left
  rw [cut, left]

theorem cut_append {p : Char → Bool} (h : ∀ c ∈ cs, p c = false) {d : Char} (hd : p d = true)
    (more : List Char) : cut p (cs ++ d :: more) = (cs, some more) := by
  have front : ∀ c ∈ cs, (!p c) = true := by simpa using h
  rw [cut, List.dropWhile_append_of_pos front, List.takeWhile_append_of_pos front]
  simp [hd]

/-! ## What they are -/

theorem wholePart?_of_isDigit (nonempty : cs ≠ []) (digit : ∀ c ∈ cs, c.isDigit)
    (noLeadingZero : ∀ c rest, cs ≠ '0' :: c :: rest) :
    wholePart? cs = some (cs.map fun c => c.toNat - 48) := by
  rw [wholePart?]
  · exact digits?_of_isDigit nonempty digit
  · exact noLeadingZero

theorem numeral?_of_not_word (negative : Bool) {c : Char} (h : c.isDigit)
    (date : '-' ∉ c :: cs) (time : ':' ∉ c :: cs) :
    numeral? (signMark negative ++ c :: cs) =
      ((decimal? (signMark negative ++ c :: cs)).map .float).or
        ((integer? (signMark negative ++ c :: cs)).map .integer) := by
  have dateTime : isDateTime (signMark negative ++ c :: cs) = false := by
    cases negative with
    | true => exact isDateTime_of_not_mem date (by simpa [signMark] using time)
    | false => exact isDateTime_of_not_mem (fun mem => date (List.mem_cons_of_mem c mem)) time
  rw [numeral?, if_neg (ne_word negative h rfl (by decide) _),
    if_neg (ne_word negative h rfl (by decide) _), dateTime, special?_signMark negative h,
    if_neg Bool.false_ne_true, Option.none_or]

theorem decimal?_of_isDigit {c : Char} (digit : ∀ d ∈ c :: cs, d.isDigit) :
    decimal? (c :: cs) = none := by
  have noMark : ∀ d ∈ c :: cs, (d == 'e' || d == 'E') = false := fun d mem => by
    simp [ne_of_isDigit (digit d mem) (d := 'e') rfl, ne_of_isDigit (digit d mem) (d := 'E') rfl]
  have noPoint : ∀ d ∈ c :: cs, (d == '.') = false := fun d mem => by
    simp [ne_of_isDigit (digit d mem) (d := '.') rfl]
  have sign : sign (c :: cs) = (false, c :: cs) := sign_signMark false (digit c List.mem_cons_self)
  simp only [decimal?, sign, cut_of_forall noMark, cut_of_forall noPoint]
  rfl

theorem integer?_of_isDigit {c : Char} (digit : ∀ d ∈ c :: cs, d.isDigit)
    (noLeadingZero : ∀ d rest, c :: cs ≠ '0' :: d :: rest)
    (range : Nat.ofDigitChars 10 (c :: cs) 0 < 9223372036854775808) :
    integer? (c :: cs) = some ((Nat.ofDigitChars 10 (c :: cs) 0 : Nat) : Int) := by
  have sign : sign (c :: cs) = (false, c :: cs) := sign_signMark false (digit c List.mem_cons_self)
  have value := digitsValue_map (c :: cs)
  have whole := wholePart?_of_isDigit (List.cons_ne_nil c cs) digit noLeadingZero
  generalize (c :: cs).map (fun c => c.toNat - 48) = digits at value whole
  generalize Nat.ofDigitChars 10 (c :: cs) 0 = n at value range
  have within : inRange n = true := by
    simp only [inRange, Bool.and_eq_true, decide_eq_true_eq]
    omega
  rw [integer?]
  · simp [sign, whole, value, within]
  all_goals exact noLeadingZero _

/-- The digits of a number in range are read as that number. -/
theorem numeral?_toDigits {n : Nat} (range : n < 9223372036854775808) :
    numeral? (Nat.toDigits 10 n) = some (.integer n) := by
  have value : Nat.ofDigitChars 10 (Nat.toDigits 10 n) 0 = n := Nat.ofDigitChars_ten_toDigits
  have digit : ∀ d ∈ Nat.toDigits 10 n, d.isDigit := fun d => isDigit_of_mem_toDigits
  have noLeadingZero := toDigits_ne_zero_cons n
  cases h : Nat.toDigits 10 n with
  | nil => exact absurd h Nat.toDigits_ne_nil
  | cons c cs =>
    rw [h] at value digit noLeadingZero
    have numeral := numeral?_of_not_word false (digit c List.mem_cons_self)
      (not_mem_of_isDigit digit rfl) (not_mem_of_isDigit digit rfl)
    rw [show signMark false ++ c :: cs = c :: cs from rfl, decimal?_of_isDigit digit,
      integer?_of_isDigit digit noLeadingZero (by rw [value]; exact range), value] at numeral
    exact numeral

theorem digit_or_point {whole fraction : List Char} {m : Nat} (h : Denotes whole fraction m)
    {c : Char} (mem : c ∈ whole ++ '.' :: fraction) : c.isDigit ∨ c = '.' := by
  rw [List.mem_append, List.mem_cons] at mem
  obtain front | point | behind := mem
  · exact .inl (h.isDigit c (List.mem_append_left _ front))
  · exact .inr point
  · exact .inl (h.isDigit c (List.mem_append_right _ behind))

/-- Digits around a point are read as the number whose magnitude they denote. -/
theorem decimal?_of_denotes (negative : Bool) {whole fraction : List Char} {m : Nat}
    (h : Denotes whole fraction m) (finite : m < double.infinity) :
    decimal? (signMark negative ++ (whole ++ '.' :: fraction)) =
      some (.ofMagnitude negative m) := by
  have wholeDigit : ∀ c ∈ whole, c.isDigit := fun c mem =>
    h.isDigit c (List.mem_append_left _ mem)
  have fractionDigit : ∀ c ∈ fraction, c.isDigit := fun c mem =>
    h.isDigit c (List.mem_append_right _ mem)
  have sign : sign (signMark negative ++ (whole ++ '.' :: fraction)) =
      (negative, whole ++ '.' :: fraction) := by
    obtain ⟨c, rest, rfl⟩ := List.exists_cons_of_ne_nil h.whole_ne_nil
    exact sign_signMark negative (wholeDigit c List.mem_cons_self)
  have noMark : ∀ c ∈ whole ++ '.' :: fraction, (c == 'e' || c == 'E') = false := by
    intro c mem
    obtain digit | rfl := digit_or_point h mem
    · simp [ne_of_isDigit digit (d := 'e') rfl, ne_of_isDigit digit (d := 'E') rfl]
    · rfl
  have noPoint : ∀ c ∈ whole, (c == '.') = false := fun c mem => by
    simp [ne_of_isDigit (wholeDigit c mem) (d := '.') rfl]
  have value := h.value
  rw [← digitsValue_map, List.map_append] at value
  have wholeDigits := wholePart?_of_isDigit h.whole_ne_nil wholeDigit h.noLeadingZero
  have fractionDigits := digits?_of_isDigit h.fraction_ne_nil fractionDigit
  have length : fraction.length = (fraction.map fun c => c.toNat - 48).length :=
    (List.length_map _).symm
  rw [length] at value
  generalize whole.map (fun c => c.toNat - 48) = ws at value wholeDigits
  generalize fraction.map (fun c => c.toNat - 48) = fs at value fractionDigits
  have range := Binary64.lt_signBit (Nat.le_of_lt finite)
  simp [decimal?, sign, cut_of_forall noMark, cut_append noPoint (BEq.rfl) fraction, wholeDigits,
    fractionDigits, Binary64.ofDecimal, value, Binary64.magnitude_ofMagnitude negative range,
    Nat.ne_of_lt finite]

theorem numeral?_of_denotes (negative : Bool) {whole fraction : List Char} {m : Nat}
    (h : Denotes whole fraction m) (finite : m < double.infinity) :
    numeral? (signMark negative ++ (whole ++ '.' :: fraction)) =
      some (.float (.ofMagnitude negative m)) := by
  have decimal := decimal?_of_denotes negative h finite
  have digit := h.isDigit
  have other {d : Char} (hd : d.isDigit = false) (point : d ≠ '.') :
      d ∉ whole ++ '.' :: fraction := fun mem =>
    (digit_or_point h mem).elim (fun digit => ne_of_isDigit digit hd rfl) point
  have date := other (d := '-') rfl (by decide)
  have time := other (d := ':') rfl (by decide)
  obtain ⟨c, rest, rfl⟩ := List.exists_cons_of_ne_nil h.whole_ne_nil
  rw [List.cons_append] at decimal date time ⊢
  rw [numeral?_of_not_word negative (digit c List.mem_cons_self) date time, decimal]
  rfl

/-- The number that decimal text gives back: the same, but for patterns that are not
numbers, which all come back as one. -/
def reread (x : Binary64) : Binary64 :=
  if x.isNaN then .ofMagnitude false double.notANumber else x

/-- The texts that have no digits. -/
theorem toDecimal_of_not_finite {x : Binary64} (h : ¬x.magnitude < double.infinity) :
    x.toDecimal.toList = ['n', 'a', 'n'] ∧ x.isNaN ∨
      x.toDecimal.toList = signMark x.isNegative ++ ['i', 'n', 'f'] ∧
        x = .ofMagnitude x.isNegative double.infinity := by
  by_cases nan : x.isNaN
  · rw [Binary64.toDecimal, if_pos nan]
    exact .inl ⟨rfl, nan⟩
  · have top : x.magnitude = double.infinity :=
      Nat.le_antisymm (by simpa [Binary64.isNaN] using nan) (Nat.le_of_not_lt h)
    refine .inr ⟨?_, by rw [← top, x.ofMagnitude_magnitude]⟩
    cases sign : x.isNegative <;> simp [Binary64.toDecimal, nan, top, sign, signMark]

theorem numeral?_toDecimal (x : Binary64) :
    numeral? x.toDecimal.toList = some (.float (reread x)) := by
  by_cases finite : x.magnitude < double.infinity
  · have nan : x.isNaN = false := decide_eq_false (by omega)
    obtain ⟨whole, fraction, text, denotes⟩ := Binary64.exists_toDecimal finite
    rw [text, numeral?_of_denotes x.isNegative denotes finite, x.ofMagnitude_magnitude, reread,
      nan, if_neg Bool.false_ne_true]
  · obtain ⟨text, nan⟩ | ⟨text, eq⟩ := toDecimal_of_not_finite finite
    · rw [text, reread, if_pos nan]
      rfl
    · rw [text]
      generalize x.isNegative = negative at eq
      subst eq
      rw [reread, Binary64.isNaN_ofMagnitude negative (Nat.le_refl _), if_neg Bool.false_ne_true]
      cases negative <;> rfl

/-! ## On a line -/

theorem isNumeralChar_of_isDigit {c : Char} (h : c.isDigit) : isNumeralChar c := by
  simp [isNumeralChar, Char.isAlphanum, h]

theorem isNumeralChar_toDigits (n : Nat) : ∀ c ∈ Nat.toDigits 10 n, isNumeralChar c :=
  fun _ mem => isNumeralChar_of_isDigit (isDigit_of_mem_toDigits mem)

theorem isNumeralChar_toDecimal (x : Binary64) : ∀ c ∈ x.toDecimal.toList, isNumeralChar c := by
  have mark : ∀ c ∈ signMark x.isNegative, isNumeralChar c := by
    cases x.isNegative <;> exact List.all_eq_true.1 rfl
  have nan : ∀ c ∈ ['n', 'a', 'n'], isNumeralChar c := List.all_eq_true.1 rfl
  have inf : ∀ c ∈ ['i', 'n', 'f'], isNumeralChar c := List.all_eq_true.1 rfl
  intro c mem
  by_cases finite : x.magnitude < double.infinity
  · obtain ⟨whole, fraction, text, denotes⟩ := Binary64.exists_toDecimal finite
    rw [text, List.mem_append] at mem
    obtain sign | mem := mem
    · exact mark c sign
    · obtain digit | rfl := digit_or_point denotes mem
      · exact isNumeralChar_of_isDigit digit
      · rfl
  · obtain ⟨text, -⟩ | ⟨text, -⟩ := toDecimal_of_not_finite finite
    · rw [text] at mem
      exact nan c mem
    · rw [text, List.mem_append] at mem
      exact mem.elim (mark c) (inf c)

/-- A number is read up to the line end behind it. -/
theorem readNumeral?_of_numeral? {v : Value} (chars : ∀ c ∈ cs, isNumeralChar c)
    (h : numeral? cs = some v) (rest : List Char) :
    readNumeral? (cs ++ '\n' :: rest) = some (v, '\n' :: rest) := by
  have run : (cs ++ '\n' :: rest).takeWhile isNumeralChar = cs := by
    rw [List.takeWhile_append_of_pos chars]
    exact List.append_nil cs
  have behind : (cs ++ '\n' :: rest).dropWhile isNumeralChar = '\n' :: rest := by
    rw [List.dropWhile_append_of_pos chars]
    rfl
  simp only [readNumeral?, run, behind, h]
  split
  next eq => cases eq
  · rfl

end Toml
end WrenchLink

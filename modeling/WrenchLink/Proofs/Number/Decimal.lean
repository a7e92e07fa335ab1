/-
Decimal notation reads back.

Of the decimals that `shortest` tries, only one that reads back is taken, and the exact value
that it falls back on reads back because rounding keeps what the format has.  Zeros behind
the digits move the exponent and nothing else, so positional notation denotes the same.
-/
import WrenchLink.Number.Decimal
import WrenchLink.Proofs.Number.Rounding

namespace WrenchLink

attribute [local instance (high)] instPowNat

/-! ## Digits -/

theorem toDigits_mul_ten {n : Nat} (h : 0 < n) :
    Nat.toDigits 10 (n * 10) = Nat.toDigits 10 n ++ ['0'] := by
  rw [← Nat.toDigits_zero 10, Nat.toDigits_append_toDigits (by decide) h (by decide),
    Nat.add_zero, Nat.mul_comm]

theorem toDigits_mul_pow {n : Nat} (h : 0 < n) (k : Nat) :
    Nat.toDigits 10 (n * 10 ^ k) = Nat.toDigits 10 n ++ List.replicate k '0' := by
  induction k with
  | zero => rw [Nat.pow_zero, Nat.mul_one, List.replicate_zero, List.append_nil]
  | succ k ih =>
    have pos : 0 < n * 10 ^ k := Nat.mul_pos h (Nat.pow_pos (by decide))
    rw [Nat.pow_succ, ← Nat.mul_assoc, toDigits_mul_ten pos, ih, List.append_assoc,
      ← List.replicate_succ']

theorem digitCount_mul_pow {n : Nat} (h : 0 < n) (k : Nat) :
    digitCount (n * 10 ^ k) = digitCount n + k := by
  rw [digitCount, toDigits_mul_pow h, List.length_append, List.length_replicate, digitCount]

theorem lt_digitCount {n : Nat} (k : Nat) (h : 10 ^ k ≤ n) : k < digitCount n := by
  obtain rfl | pos := Nat.eq_zero_or_pos k
  · exact Nat.length_toDigits_pos
  · rw [← Nat.not_le, digitCount, Nat.length_toDigits_le_iff (by decide) pos, Nat.not_lt]
    exact h

theorem digitCount_le {n k : Nat} (pos : 0 < k) (h : n < 10 ^ k) : digitCount n ≤ k :=
  (Nat.length_toDigits_le_iff (by decide) pos).2 h

/-- Digits of a positive number start with another one than zero. -/
theorem toDigits_head {n : Nat} (h : 0 < n) :
    ∃ c rest, Nat.toDigits 10 n = c :: rest ∧ c ≠ '0' := by
  induction n using Nat.strongRecOn with
  | ind n ih =>
    obtain small | large := Nat.lt_or_ge n 10
    · refine ⟨n.digitChar, [], Nat.toDigits_of_lt_base small, ?_⟩
      rw [Ne, Nat.digitChar_eq_zero]
      omega
    · obtain ⟨c, rest, eq, hc⟩ := ih (n / 10) (by omega) (by omega)
      exact ⟨c, rest ++ [(n % 10).digitChar],
        by rw [Nat.toDigits_of_base_le (by decide) large, eq, List.cons_append], hc⟩

theorem toDigits_ne_zero_cons (n : Nat) (c : Char) (rest : List Char) :
    Nat.toDigits 10 n ≠ '0' :: c :: rest := by
  obtain rfl | pos := Nat.eq_zero_or_pos n
  · rw [Nat.toDigits_zero]
    exact fun eq => by cases eq
  · obtain ⟨d, tail, eq, hd⟩ := toDigits_head pos
    rw [eq]
    exact fun eq => hd (List.cons.inj eq).1

/-! ## Values -/

theorem decimalRatio_eq (digits : Nat) (exponent : Int) :
    decimalRatio digits exponent =
      (digits * 10 ^ exponent.toNat, 10 ^ (-exponent).toNat) := by
  rw [decimalRatio]
  split
  · rw [show (-exponent).toNat = 0 by omega, Nat.pow_zero]
  · rw [show exponent.toNat = 0 by omega, Nat.pow_zero, Nat.mul_one]

/-- Zeros behind the digits, with the exponent lowered for them, change nothing. -/
theorem decimalMagnitude_mul_pow (digits : Nat) (exponent : Int) (k : Nat) :
    decimalMagnitude (digits * 10 ^ k) (exponent - k) = decimalMagnitude digits exponent := by
  have ten (n : Nat) : (0 : Nat) < 10 ^ n := Nat.pow_pos (by decide)
  obtain rfl | pos := Nat.eq_zero_or_pos digits
  · rw [Nat.zero_mul, decimalMagnitude, decimalMagnitude, if_pos rfl, if_pos rfl]
  have ratio : double.nearest (digits * 10 ^ k * 10 ^ (exponent - k).toNat)
      (10 ^ (-(exponent - k)).toNat) =
      double.nearest (digits * 10 ^ exponent.toNat) (10 ^ (-exponent).toNat) := by
    apply Format.nearest_congr _ (ten _) (ten _)
    rw [Nat.mul_assoc, Nat.mul_assoc, Nat.mul_assoc, ← Nat.pow_add, ← Nat.pow_add,
      ← Nat.pow_add]
    congr 2
    omega
  have places : exponent - k + (digitCount digits + k : Nat) = exponent + digitCount digits := by
    omega
  have nonzero : digits * 10 ^ k ≠ 0 := Nat.ne_of_gt (Nat.mul_pos pos (ten k))
  simp only [decimalMagnitude, decimalRatio_eq, digitCount_mul_pow pos, places, ratio,
    if_neg nonzero, if_neg (Nat.ne_of_gt pos)]

theorem digits_ne_zero {digits : Nat} {exponent : Int}
    (h : 0 < decimalMagnitude digits exponent) : 0 < digits := by
  apply Nat.pos_of_ne_zero
  intro zero
  rw [decimalMagnitude, if_pos zero] at h
  exact Nat.lt_irrefl 0 h

/-! ## The shortest decimal -/

/-- The exact value of a finite number is within the places that are looked at, and rounds
to itself. -/
theorem decimalMagnitude_units {m : Nat} (pos : 0 < m) (finite : m < double.infinity) :
    decimalMagnitude (double.units m * 5 ^ double.scale) (-double.scale) = m := by
  have scale : double.scale = 1074 := rfl
  have units := Format.units_pos double pos
  have low : (10 : Nat) ^ (673 : Nat) ≤ double.units m * 5 ^ double.scale :=
    Nat.le_trans (by decide +kernel) (Nat.le_mul_of_pos_left _ units)
  have high : double.units m * 5 ^ double.scale < (10 : Nat) ^ (1474 : Nat) :=
    Nat.lt_of_lt_of_le (Nat.mul_lt_mul_of_pos_right (Format.units_lt double finite)
      (Nat.pow_pos (by decide))) (by decide +kernel)
  have nearest : double.nearest (double.units m * 5 ^ double.scale) (10 ^ double.scale) = m := by
    rw [Format.nearest_of_units (m := m) (by decide) (Nat.pow_pos (by decide)),
      Nat.min_eq_left (Nat.le_of_lt finite)]
    rw [Nat.mul_assoc, ← Nat.mul_pow]
  have positive : 0 < double.units m * 5 ^ double.scale :=
    Nat.mul_pos units (Nat.pow_pos (by decide))
  generalize double.units m * 5 ^ double.scale = digits at low high nearest positive
  have many := lt_digitCount 673 low
  have few := digitCount_le (by decide) high
  have whole : (-(double.scale : Int)).toNat = 0 := by omega
  have fraction : (- -(double.scale : Int)).toNat = double.scale := by omega
  rw [decimalMagnitude, if_neg (Nat.ne_of_gt positive), if_neg (by omega), if_neg (by omega),
    decimalRatio_eq, whole, fraction, Nat.pow_zero, Nat.mul_one]
  exact nearest

namespace Binary64

/-- Whatever number of digits is tried first, those that come out read back. -/
theorem decimalMagnitude_shortestFrom {m : Nat} (pos : 0 < m) (finite : m < double.infinity)
    (top : Int) (count rounds : Nat) :
    decimalMagnitude (shortestFrom m top count rounds).1 (shortestFrom m top count rounds).2 =
      m := by
  induction rounds generalizing count with
  | zero => exact decimalMagnitude_units pos finite
  | succ rounds ih =>
    rw [shortestFrom]
    split
    next low high lowNearer _ =>
      by_cases hitLow : decimalMagnitude low (top - count) = m <;>
        by_cases hitHigh : decimalMagnitude high (top - count) = m <;>
          simp [hitLow, hitHigh, ih]
      split <;> assumption

theorem decimalMagnitude_shortest {m : Nat} (pos : 0 < m) (finite : m < double.infinity) :
    decimalMagnitude (shortest m).1 (shortest m).2 = m :=
  decimalMagnitude_shortestFrom pos finite _ _ _

end Binary64

/-! ## Positional notation -/

/-- The digits in front of a point and behind it denote a magnitude, and are digits that a
number may be written with: there are some on both sides, and the first is a zero only if it
stands alone. -/
structure Denotes (whole fraction : List Char) (magnitude : Nat) : Prop where
  whole_ne_nil : whole ≠ []
  fraction_ne_nil : fraction ≠ []
  isDigit : ∀ c ∈ whole ++ fraction, c.isDigit
  noLeadingZero : ∀ c rest, whole ≠ '0' :: c :: rest
  value : decimalMagnitude (Nat.ofDigitChars 10 (whole ++ fraction) 0) (-fraction.length) =
    magnitude

theorem isDigit_of_mem_toDigits {n : Nat} {c : Char} (h : c ∈ Nat.toDigits 10 n) : c.isDigit :=
  Nat.isDigit_of_mem_toDigits (by decide) (by decide) h

/-- Digits with no zero in front, and all zeros behind them, in front of the point. -/
theorem Denotes.of_nonneg {digits : Nat} (pos : 0 < digits) (exponent : Nat) :
    Denotes (Nat.toDigits 10 digits ++ List.replicate exponent '0') ['0']
      (decimalMagnitude digits exponent) := by
  have all := toDigits_mul_ten (Nat.mul_pos pos (Nat.pow_pos (n := exponent) (by decide : 0 < 10)))
  rw [← toDigits_mul_pow pos]
  refine ⟨Nat.toDigits_ne_nil, List.cons_ne_nil _ _, fun c h => ?_,
    toDigits_ne_zero_cons _, ?_⟩
  · rw [← all] at h
    exact isDigit_of_mem_toDigits h
  · rw [← all, Nat.ofDigitChars_ten_toDigits, Nat.mul_assoc, ← Nat.pow_succ]
    have behind : -((['0'].length : Nat) : Int) = exponent - (exponent + 1 : Nat) := by
      rw [List.length_singleton]
      omega
    rw [behind, decimalMagnitude_mul_pow]

/-- Digits cut `places` from their end, with zeros put in front where they are too few. -/
theorem Denotes.of_neg {digits : Nat} (pos : 0 < digits) {places : Nat} (hp : 0 < places)
    {padded : List Char} (padding : padded =
      List.replicate (places + 1 - (Nat.toDigits 10 digits).length) '0' ++ Nat.toDigits 10 digits) :
    Denotes (padded.take (padded.length - places)) (padded.drop (padded.length - places))
      (decimalMagnitude digits (-places)) := by
  obtain ⟨c, rest, eq, hc⟩ := toDigits_head pos
  have length : padded.length =
      places + 1 - (Nat.toDigits 10 digits).length + (Nat.toDigits 10 digits).length := by
    rw [padding, List.length_append, List.length_replicate]
  refine ⟨?_, ?_, fun d h => ?_, fun d tail h => ?_, ?_⟩
  · rw [Ne, ← List.length_eq_zero_iff, List.length_take]
    omega
  · rw [Ne, ← List.length_eq_zero_iff, List.length_drop]
    omega
  · rw [List.take_append_drop, padding, List.mem_append] at h
    obtain zero | digit := h
    · rw [List.eq_of_mem_replicate zero]
      rfl
    · exact isDigit_of_mem_toDigits digit
  · by_cases many : places < (Nat.toDigits 10 digits).length
    · rw [padding, Nat.sub_eq_zero_of_le many, List.replicate_zero, List.nil_append, eq,
        show (c :: rest).length - places = (rest.length - places) + 1 by
          rw [eq, List.length_cons] at many; rw [List.length_cons]; omega] at h
      exact hc (List.cons.inj h).1
    · have one : (padded.take (padded.length - places)).length = 1 := by
        rw [List.length_take]
        omega
      rw [h] at one
      simp at one
  · have value : Nat.ofDigitChars 10 padded 0 = digits := by
      rw [padding, Nat.ofDigitChars_append, Nat.ofDigitChars_replicate_zero, Nat.mul_zero,
        Nat.ofDigitChars_ten_toDigits]
    rw [List.take_append_drop, value, List.length_drop]
    congr 2
    omega

/-- Positional notation denotes what the digits and the exponent do. -/
theorem exists_positional {digits : Nat} (pos : 0 < digits) (exponent : Int) :
    ∃ whole fraction, (positional digits exponent).toList = whole ++ '.' :: fraction ∧
      Denotes whole fraction (decimalMagnitude digits exponent) := by
  have length : digits.repr.length = (Nat.toDigits 10 digits).length := by
    rw [← String.length_toList, Nat.toList_repr]
  obtain negative | nonneg := Int.lt_or_le exponent 0
  · obtain ⟨places, hp, rfl⟩ : ∃ places : Nat, 0 < places ∧ exponent = -places :=
      ⟨(-exponent).toNat, by omega, by omega⟩
    refine ⟨_, _, ?_, Denotes.of_neg pos hp rfl⟩
    simp [positional, Nat.ne_of_gt hp, length]
  · obtain ⟨zeros, rfl⟩ := Int.eq_ofNat_of_zero_le nonneg
    refine ⟨_, ['0'], ?_, Denotes.of_nonneg pos zeros⟩
    simp [positional]

/-- The sign that is written in front of a number. -/
def signMark (negative : Bool) : List Char := if negative then ['-'] else []

namespace Binary64

/-- Every number but the infinities is written as its sign and places that denote its
magnitude. -/
theorem exists_toDecimal {x : Binary64} (finite : x.magnitude < double.infinity) :
    ∃ whole fraction, x.toDecimal.toList = signMark x.isNegative ++ (whole ++ '.' :: fraction) ∧
      Denotes whole fraction x.magnitude := by
  have nan : x.isNaN = false := decide_eq_false (by omega)
  obtain zero | pos := Nat.eq_zero_or_pos x.magnitude
  · refine ⟨['0'], ['0'], ?_, ?_⟩
    · have top : 0 ≠ double.infinity := by decide
      cases h : x.isNegative <;> simp [toDecimal, signMark, nan, zero, h, top]
    · rw [zero]
      refine ⟨List.cons_ne_nil _ _, List.cons_ne_nil _ _, List.all_eq_true.1 rfl, ?_, rfl⟩
      intro c rest h
      cases h
  · obtain ⟨whole, fraction, text, denotes⟩ :=
      exists_positional (digits_ne_zero (decimalMagnitude_shortest pos finite ▸ pos))
        (shortest x.magnitude).2
    refine ⟨whole, fraction, ?_, decimalMagnitude_shortest pos finite ▸ denotes⟩
    cases h : x.isNegative <;>
      simp [toDecimal, signMark, nan, h, Nat.ne_of_lt finite, Nat.ne_of_gt pos, text]

end Binary64
end WrenchLink

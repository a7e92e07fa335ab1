/-
Rounding to the nearest number of a format.

Nearest rounding depends on the value of the quotient only, and a value that the format
has comes out as it went in.  Every number in single precision is one in double precision,
so widening and narrowing again changes no pattern but those that are not numbers.
-/
import WrenchLink.Number.Binary

namespace WrenchLink

attribute [local instance (high)] instPowNat

theorem divideToEven_mul (n : Nat) {den : Nat} (h : 0 < den) :
    divideToEven (n * den) den = n := by
  rw [divideToEven, Nat.mul_mod_left, Nat.mul_div_cancel n h]
  exact if_pos h

theorem divideToEven_mul_mul (num den : Nat) {k : Nat} (h : 0 < k) :
    divideToEven (num * k) (den * k) = divideToEven num den := by
  have below : 2 * (num % den * k) < den * k ↔ 2 * (num % den) < den := by
    rw [← Nat.mul_assoc, Nat.mul_lt_mul_right h]
  have above : den * k < 2 * (num % den * k) ↔ den < 2 * (num % den) := by
    rw [← Nat.mul_assoc, Nat.mul_lt_mul_right h]
  simp only [divideToEven, Nat.mul_div_mul_right _ _ h, Nat.mul_mod_mul_right, below, above]

namespace Format

variable {f : Format} {m num den : Nat}

theorem binade_pos (f : Format) : 0 < f.binade := Nat.two_pow_pos _

theorem two_mul_binade (h : 0 < f.precision) : 2 * f.binade = 2 ^ f.precision := by
  rw [binade, Nat.mul_comm, ← Nat.pow_succ]
  congr 1
  omega

/-! ## The numbers of a format -/

theorem units_of_lt (h : m < f.binade) : f.units m = m := by
  rw [units, Nat.div_eq_of_lt h, Nat.mod_eq_of_lt h]
  exact if_pos rfl

theorem units_binade (f : Format) (exponent : Nat) {fraction : Nat} (h : fraction < f.binade) :
    f.units ((exponent + 1) * f.binade + fraction) = (f.binade + fraction) * 2 ^ exponent := by
  have div : ((exponent + 1) * f.binade + fraction) / f.binade = exponent + 1 := by
    rw [Nat.mul_comm, Nat.mul_add_div (binade_pos f), Nat.div_eq_of_lt h, Nat.add_zero]
  have mod : ((exponent + 1) * f.binade + fraction) % f.binade = fraction := by
    rw [Nat.mul_comm, Nat.mul_add_mod, Nat.mod_eq_of_lt h]
  simp only [units, div, mod, Nat.add_sub_cancel]
  exact if_neg (Nat.succ_ne_zero exponent)

/-- A magnitude lies below the least of the full precision or in one of the binades. -/
theorem magnitude_cases (f : Format) (m : Nat) :
    m < f.binade ∨
      ∃ exponent fraction, fraction < f.binade ∧ m = (exponent + 1) * f.binade + fraction := by
  have split := Nat.div_add_mod m f.binade
  cases h : m / f.binade with
  | zero => exact .inl (Nat.lt_of_div_eq_zero (binade_pos f) h)
  | succ exponent =>
    refine .inr ⟨exponent, m % f.binade, Nat.mod_lt m (binade_pos f), ?_⟩
    rw [h, Nat.mul_comm] at split
    exact split.symm

/-- Every number is a significand times a power of two. -/
theorem units_eq (f : Format) (m : Nat) :
    ∃ significand exponent, significand < 2 * f.binade ∧ exponent ≤ m / f.binade ∧
      f.units m = significand * 2 ^ exponent := by
  have pos := binade_pos f
  obtain small | ⟨exponent, fraction, hf, rfl⟩ := magnitude_cases f m
  · refine ⟨m, 0, by omega, Nat.zero_le _, ?_⟩
    rw [units_of_lt small, Nat.pow_zero, Nat.mul_one]
  · refine ⟨f.binade + fraction, exponent, by omega, ?_, units_binade f exponent hf⟩
    rw [Nat.le_div_iff_mul_le pos, Nat.succ_mul]
    omega

theorem units_lt (f : Format) {top : Nat} (h : m < (top + 1) * f.binade) :
    f.units m < 2 * f.binade * 2 ^ top := by
  obtain ⟨significand, exponent, hs, he, eq⟩ := units_eq f m
  rw [← Nat.div_lt_iff_lt_mul (binade_pos f)] at h
  rw [eq]
  exact Nat.mul_lt_mul_of_lt_of_le hs (Nat.pow_le_pow_right (by decide) (by omega))
    (Nat.two_pow_pos _)

theorem units_of_significand (f : Format) {significand : Nat} (low : f.binade ≤ significand)
    (high : significand < 2 * f.binade) (exponent : Nat) :
    f.units ((exponent + 1) * f.binade + (significand - f.binade)) =
      significand * 2 ^ exponent := by
  rw [units_binade f exponent (by omega), Nat.add_sub_cancel' low]

theorem units_pos (f : Format) (h : 0 < m) : 0 < f.units m := by
  obtain small | ⟨exponent, fraction, hf, rfl⟩ := magnitude_cases f m
  · rwa [units_of_lt small]
  · rw [units_binade f exponent hf]
    exact Nat.mul_pos (Nat.add_pos_left (binade_pos f) _) (Nat.two_pow_pos _)

/-- A significand of the format's precision times a power of two is one of its numbers,
if exponents had no upper end. -/
theorem exists_units_eq (f : Format) {significand : Nat} (h : significand < 2 * f.binade)
    (exponent : Nat) : ∃ m, f.units m = significand * 2 ^ exponent := by
  induction exponent generalizing significand with
  | zero =>
    obtain small | low := Nat.lt_or_ge significand f.binade
    · exact ⟨significand, by rw [units_of_lt small, Nat.pow_zero, Nat.mul_one]⟩
    · exact ⟨_, units_of_significand f low h 0⟩
  | succ exponent ih =>
    obtain small | low := Nat.lt_or_ge significand f.binade
    · -- A short significand takes one of the powers of two in.
      obtain ⟨m, hm⟩ := ih (show 2 * significand < 2 * f.binade by omega)
      exact ⟨m, by rw [hm, Nat.pow_succ', Nat.mul_comm 2 significand, Nat.mul_assoc]⟩
    · exact ⟨_, units_of_significand f low h (exponent + 1)⟩

theorem binade_mul_pow_le_units {exponent : Nat} (h : (exponent + 1) * f.binade ≤ m) :
    f.binade * 2 ^ exponent ≤ f.units m := by
  obtain small | ⟨e, fraction, hf, rfl⟩ := magnitude_cases f m
  · have : f.binade ≤ (exponent + 1) * f.binade := Nat.le_mul_of_pos_left _ (Nat.succ_pos _)
    omega
  · have le : exponent ≤ e := by
      have : (exponent + 1) * f.binade < (e + 1 + 1) * f.binade := by
        rw [Nat.succ_mul (e + 1)]
        omega
      have := Nat.lt_of_mul_lt_mul_right this
      omega
    rw [units_binade f e hf]
    exact Nat.mul_le_mul (Nat.le_add_right _ _) (Nat.pow_le_pow_right (by decide) le)

theorem lt_of_units_lt {exponent : Nat} (h : f.units m < f.binade * 2 ^ exponent) :
    m < (exponent + 1) * f.binade :=
  Nat.lt_of_not_le fun large => Nat.not_le_of_lt h (binade_mul_pow_le_units large)

/-! ## Rounding -/

theorem nearest_mul_mul (f : Format) (num den : Nat) {k : Nat} (h : 0 < k) :
    f.nearest (num * k) (den * k) = f.nearest num den := by
  have scaled : num * k * 2 ^ f.scale = num * 2 ^ f.scale * k := Nat.mul_right_comm ..
  have shifted (n : Nat) : den * k * 2 ^ n = den * 2 ^ n * k := Nat.mul_right_comm ..
  simp only [nearest, scaled, shifted, Nat.mul_div_mul_right _ _ h, divideToEven_mul_mul _ _ h]

/-- Equal quotients have the same nearest magnitude. -/
theorem nearest_congr (f : Format) {num' den' : Nat} (hden : 0 < den) (hden' : 0 < den')
    (h : num * den' = num' * den) : f.nearest num den = f.nearest num' den' := by
  rw [← nearest_mul_mul f num den hden', h, Nat.mul_comm den den',
    nearest_mul_mul f num' den' hden]

/-! The shift of `nearest` is the exponent of a number that the format has. -/

theorem shift_of_lt (precise : 0 < f.precision) (small : m < f.binade) :
    Nat.log2 m + 1 - f.precision = 0 := by
  have two := two_mul_binade precise
  by_cases zero : m = 0
  · rw [zero, Nat.log2_zero]
    omega
  · have : Nat.log2 m < f.precision := (Nat.log2_lt zero).2 (by omega)
    omega

theorem shift_binade (precise : 0 < f.precision) {fraction : Nat} (hf : fraction < f.binade)
    (exponent : Nat) :
    Nat.log2 ((f.binade + fraction) * 2 ^ exponent) + 1 - f.precision = exponent := by
  have two := two_mul_binade precise
  have pos : 0 < (f.binade + fraction) * 2 ^ exponent :=
    Nat.mul_pos (Nat.add_pos_left (binade_pos f) _) (Nat.two_pow_pos _)
  have log : Nat.log2 ((f.binade + fraction) * 2 ^ exponent) = f.precision - 1 + exponent := by
    rw [Nat.log2_eq_iff (Nat.ne_of_gt pos), Nat.pow_add, Nat.add_right_comm, Nat.pow_add,
      Nat.sub_add_cancel precise, ← two]
    exact ⟨Nat.mul_le_mul_right _ (Nat.le_add_right _ _),
      Nat.mul_lt_mul_of_pos_right (by omega) (Nat.two_pow_pos _)⟩
  omega

/-- A quotient that is a number of the format is its own nearest. -/
theorem nearest_of_units (precise : 0 < f.precision) (hden : 0 < den)
    (h : num * 2 ^ f.scale = f.units m * den) : f.nearest num den = min m f.infinity := by
  suffices exact : (Nat.log2 (f.units m) + 1 - f.precision) * f.binade +
      divideToEven (f.units m * den) (den * 2 ^ (Nat.log2 (f.units m) + 1 - f.precision)) = m by
    simp only [nearest, h, Nat.mul_div_cancel _ hden, exact]
  obtain small | ⟨exponent, fraction, hf, rfl⟩ := magnitude_cases f m
  · rw [units_of_lt small, shift_of_lt precise small, Nat.zero_mul, Nat.zero_add, Nat.pow_zero,
      Nat.mul_one]
    exact divideToEven_mul m hden
  · rw [units_binade f exponent hf, shift_binade precise hf, Nat.mul_right_comm, Nat.mul_assoc,
      divideToEven_mul _ (Nat.mul_pos hden (Nat.two_pow_pos _)), Nat.succ_mul]
    omega

end Format

/-! ## Patterns -/

namespace Binary64

theorem magnitude_ofMagnitude (negative : Bool) {m : Nat} (h : m < double.signBit) :
    (ofMagnitude negative m).magnitude = m := by
  have bit : double.signBit = 9223372036854775808 := by decide
  cases negative <;> simp [magnitude, ofMagnitude, bit] at h ⊢ <;> omega

theorem isNegative_ofMagnitude (negative : Bool) {m : Nat} (h : m < double.signBit) :
    (ofMagnitude negative m).isNegative = negative := by
  have bit : double.signBit = 9223372036854775808 := by decide
  cases negative <;> simp [isNegative, ofMagnitude, bit] at h ⊢ <;> omega

theorem lt_signBit {m : Nat} (h : m ≤ double.infinity) : m < double.signBit :=
  Nat.lt_of_le_of_lt h (by decide)

theorem isNaN_ofMagnitude (negative : Bool) {m : Nat} (h : m ≤ double.infinity) :
    (ofMagnitude negative m).isNaN = false := by
  rw [isNaN, magnitude_ofMagnitude negative (lt_signBit h)]
  exact decide_eq_false (Nat.not_lt_of_le h)

theorem ofMagnitude_magnitude (x : Binary64) : ofMagnitude x.isNegative x.magnitude = x := by
  have bit : double.signBit = 9223372036854775808 := by decide
  have bound := x.bits.toNat_lt
  cases h : x.isNegative <;>
    simp [isNegative, magnitude, ofMagnitude, bit] at h ⊢ <;>
    exact congrArg mk (UInt64.toNat_inj.1 (by simp; omega))

end Binary64

namespace Binary32

theorem magnitude_ofMagnitude (negative : Bool) {m : Nat} (h : m < single.signBit) :
    (ofMagnitude negative m).magnitude = m := by
  have bit : single.signBit = 2147483648 := by decide
  cases negative <;> simp [magnitude, ofMagnitude, bit] at h ⊢ <;> omega

theorem ofMagnitude_magnitude (x : Binary32) : ofMagnitude x.isNegative x.magnitude = x := by
  have bit : single.signBit = 2147483648 := by decide
  have bound := x.bits.toNat_lt
  cases h : x.isNegative <;>
    simp [isNegative, magnitude, ofMagnitude, bit] at h ⊢ <;>
    exact congrArg mk (UInt32.toNat_inj.1 (by simp; omega))

end Binary32

/-! ## Widening -/

/-- A finite number in single precision is a finite one in double precision. -/
theorem exists_double_units {m : Nat} (finite : m < single.infinity) :
    ∃ n, n < double.infinity ∧
      single.units m * 2 ^ double.scale = double.units n * 2 ^ single.scale := by
  have singleTop : single.infinity = 255 * single.binade := rfl
  have doubleTop : double.infinity = (2046 + 1) * double.binade := rfl
  have scale : double.scale = 925 + single.scale := rfl
  obtain ⟨significand, exponent, short, he, eq⟩ := Format.units_eq single m
  have exponent_le : exponent ≤ 254 := by
    rw [singleTop, ← Nat.div_lt_iff_lt_mul (Format.binade_pos single)] at finite
    omega
  have binades : single.binade ≤ double.binade := by decide
  obtain ⟨n, hn⟩ := Format.exists_units_eq double
    (show significand < 2 * double.binade by omega) (exponent + 925)
  refine ⟨n, ?_, ?_⟩
  · have value : double.units n < double.binade * 2 ^ (exponent + 925 + 1) :=
      calc double.units n = significand * 2 ^ (exponent + 925) := hn
        _ < double.binade * 2 * 2 ^ (exponent + 925) :=
            Nat.mul_lt_mul_of_pos_right (by omega) (Nat.two_pow_pos _)
        _ = double.binade * 2 ^ (exponent + 925 + 1) := by
            rw [Nat.mul_assoc, Nat.pow_succ' (n := exponent + 925)]
    have low := Format.lt_of_units_lt value
    have room : (exponent + 925 + 1 + 1) * double.binade ≤ (2046 + 1) * double.binade :=
      Nat.mul_le_mul_right _ (by omega)
    omega
  · calc single.units m * 2 ^ double.scale
        = significand * (2 ^ exponent * 2 ^ (925 + single.scale)) := by
          rw [eq, scale, Nat.mul_assoc]
      _ = significand * 2 ^ (exponent + 925) * 2 ^ single.scale := by
          rw [Nat.mul_assoc, ← Nat.pow_add, ← Nat.pow_add, Nat.add_assoc]
      _ = double.units n * 2 ^ single.scale := by rw [hn]

namespace Binary32

theorem toBinary64_of_finite {x : Binary32} (finite : x.magnitude < single.infinity) :
    ∃ n, n < double.infinity ∧ x.toBinary64 = .ofMagnitude x.isNegative n ∧
      single.units x.magnitude * 2 ^ double.scale = double.units n * 2 ^ single.scale := by
  obtain ⟨n, small, eq⟩ := exists_double_units finite
  have nan : x.isNaN = false := decide_eq_false (by omega)
  refine ⟨n, small, ?_, eq⟩
  rw [toBinary64, nan, if_neg Bool.false_ne_true, if_neg (Nat.ne_of_lt finite),
    Format.nearest_of_units (by decide) (Nat.two_pow_pos _) eq,
    Nat.min_eq_left (Nat.le_of_lt small)]

/-- Widening and narrowing again gives back every number, infinities and the signs of zeros
included. -/
theorem toBinary32_toBinary64 {x : Binary32} (h : x.isNaN = false) :
    x.toBinary64.toBinary32 = x := by
  have bound : x.magnitude ≤ single.infinity := by simpa [isNaN] using h
  obtain finite | top := Nat.lt_or_eq_of_le bound
  · obtain ⟨n, small, eq, value⟩ := toBinary64_of_finite finite
    have range : n ≤ double.infinity := Nat.le_of_lt small
    rw [eq, Binary64.toBinary32, Binary64.isNaN_ofMagnitude _ range, if_neg Bool.false_ne_true,
      Binary64.magnitude_ofMagnitude _ (Binary64.lt_signBit range), if_neg (Nat.ne_of_lt small),
      Binary64.isNegative_ofMagnitude _ (Binary64.lt_signBit range),
      Format.nearest_of_units (by decide) (Nat.two_pow_pos _) value.symm,
      Nat.min_eq_left (Nat.le_of_lt finite), ofMagnitude_magnitude]
  · have range : double.infinity ≤ double.infinity := Nat.le_refl _
    rw [toBinary64, h, if_neg Bool.false_ne_true, if_pos top, Binary64.toBinary32,
      Binary64.isNaN_ofMagnitude _ range, if_neg Bool.false_ne_true,
      Binary64.magnitude_ofMagnitude _ (Binary64.lt_signBit range), if_pos rfl,
      Binary64.isNegative_ofMagnitude _ (Binary64.lt_signBit range), ← top,
      ofMagnitude_magnitude]

theorem isNaN_toBinary64 (x : Binary32) : x.toBinary64.isNaN = x.isNaN := by
  cases h : x.isNaN with
  | true =>
    rw [toBinary64, if_pos h, Binary64.isNaN, Binary64.magnitude_ofMagnitude _ (by decide)]
    decide
  | false =>
    have bound : x.magnitude ≤ single.infinity := by simpa [isNaN] using h
    obtain finite | top := Nat.lt_or_eq_of_le bound
    · obtain ⟨n, small, eq, -⟩ := toBinary64_of_finite finite
      rw [eq, Binary64.isNaN_ofMagnitude _ (Nat.le_of_lt small)]
    · rw [toBinary64, h, if_neg Bool.false_ne_true, if_pos top,
        Binary64.isNaN_ofMagnitude _ (Nat.le_refl _)]

end Binary32

/-- Narrowing keeps a pattern that is not a number one. -/
theorem Binary64.isNaN_toBinary32 {x : Binary64} (h : x.isNaN = true) :
    x.toBinary32.isNaN = true := by
  rw [toBinary32, if_pos h, Binary32.isNaN, Binary32.magnitude_ofMagnitude _ (by decide)]
  decide

end WrenchLink

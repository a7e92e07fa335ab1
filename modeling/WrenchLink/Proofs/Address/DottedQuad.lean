/-
Dotted quads.

An octet has one text only, its decimal digits, because a zero may not stand in front of
another digit.  So four octets between single points are one text for each address, and
`Address.parse?` reads that text and no other: `parse?_eq_some_iff`.
-/
import WrenchLink.Address
import WrenchLink.Proofs.Toml.Numeral
import Mathlib.Data.List.Induction

namespace WrenchLink

namespace Text

theorem split_ne_nil (separator : Char) (cs : List Char) : split separator cs ≠ [] := by
  cases cs with
  | nil => exact List.cons_ne_nil _ _
  | cons c cs =>
    rw [split]
    split
    · exact List.cons_ne_nil _ _
    · split <;> exact List.cons_ne_nil _ _

theorem split_eq_splitOn (separator : Char) (cs : List Char) :
    split separator cs = cs.splitOn separator := by
  induction cs with
  | nil => rw [split, List.splitOn_nil]
  | cons c cs ih =>
    have some_piece := split_ne_nil separator cs
    rw [split, List.splitOn_cons_eq_if_modifyHead, ← ih]
    simp only [beq_iff_eq]
    cases pieces : split separator cs with
    | nil => exact absurd pieces some_piece
    | cons piece more => rfl

/-! ## Digits -/

/-- Letters are digits too, but none below ten. -/
theorem isDigit_of_digit? {c : Char} {n : Nat} (h : digit? 10 c = some n) : c.isDigit := by
  have a : 'a'.toNat = 97 := rfl
  have A : 'A'.toNat = 65 := rfl
  obtain ⟨value, below⟩ := Option.filter_eq_some_iff.1 h
  rw [decide_eq_true_eq] at below
  rw [digitValue?] at value
  split at value
  next range => exact Char.isDigit_iff_toNat.2 range
  split at value
  next => cases value; omega
  split at value
  next => cases value; omega
  next => cases value

theorem isDigit_of_mapM_digit? {cs : List Char} {digits : List Nat}
    (h : cs.mapM (digit? 10) = some digits) : ∀ c ∈ cs, c.isDigit := by
  induction cs generalizing digits with
  | nil => exact List.forall_mem_nil _
  | cons c cs ih =>
    rw [List.mapM_cons] at h
    obtain ⟨d, first, h⟩ := Option.bind_eq_some_iff.1 h
    obtain ⟨ds, others, -⟩ := Option.bind_eq_some_iff.1 h
    exact List.forall_mem_cons.2 ⟨isDigit_of_digit? first, ih others⟩

end Text

theorem digitChar_of_isDigit {c : Char} (h : c.isDigit) : (c.toNat - 48).digitChar = c := by
  obtain ⟨low, high⟩ := Char.isDigit_iff_toNat.1 h
  have zero : '0'.toNat = 48 := rfl
  have nine : '9'.toNat = 57 := rfl
  apply Char.toNat_inj.1
  rw [Nat.toNat_digitChar_of_lt_ten (by omega)]
  omega

/-- Digits without a zero in front are those of their value. -/
theorem toDigits_ofDigitChars {cs : List Char} (nonempty : cs ≠ [])
    (digit : ∀ c ∈ cs, c.isDigit) (noLeadingZero : ∀ c rest, cs ≠ '0' :: c :: rest) :
    Nat.toDigits 10 (Nat.ofDigitChars 10 cs 0) = cs := by
  induction cs using List.reverseRecOn with
  | nil => exact absurd rfl nonempty
  | append_singleton front c ih =>
    have last : c.isDigit := digit c (List.mem_append_right _ List.mem_cons_self)
    obtain ⟨low, high⟩ := Char.isDigit_iff_toNat.1 last
    have zero : '0'.toNat = 48 := rfl
    have nine : '9'.toNat = 57 := rfl
    have one : Nat.toDigits 10 (c.toNat - 48) = [c] := by
      rw [Nat.toDigits_of_lt_base (by omega), digitChar_of_isDigit last]
    rw [Nat.ofDigitChars_append, Nat.ofDigitChars_cons, Nat.ofDigitChars_nil, zero]
    obtain rfl | more := eq_or_ne front []
    · rw [Nat.ofDigitChars_nil, Nat.mul_zero, Nat.zero_add, one, List.nil_append]
    · have front_eq := ih more (fun d mem => digit d (List.mem_append_left _ mem))
        (fun d rest eq => noLeadingZero d (rest ++ [c]) (by rw [eq]; rfl))
      -- Were the digits in front worth nothing, they would be a zero in front.
      have pos : 0 < Nat.ofDigitChars 10 front 0 := by
        apply Nat.pos_of_ne_zero
        intro worthless
        rw [worthless, Nat.toDigits_zero] at front_eq
        exact noLeadingZero c [] (by rw [← front_eq]; rfl)
      rw [← Nat.toDigits_append_toDigits (by decide) pos (by omega), front_eq, one]

namespace Address

/-! ## Octets -/

/-- Digits that write an octet, the first not a zero unless it is the only one. -/
structure IsOctet (piece : List Char) (n : UInt8) : Prop where
  nonempty : piece ≠ []
  digit : ∀ c ∈ piece, c.isDigit
  noLeadingZero : ∀ c rest, piece ≠ '0' :: c :: rest
  value : Nat.ofDigitChars 10 piece 0 = n.toNat

namespace IsOctet

variable {piece : List Char} {n : UInt8}

theorem eq_toDigits (h : IsOctet piece n) : piece = Nat.toDigits 10 n.toNat := by
  rw [← h.value, toDigits_ofDigitChars h.nonempty h.digit h.noLeadingZero]

theorem of_toDigits (n : UInt8) : IsOctet (Nat.toDigits 10 n.toNat) n where
  nonempty := Nat.toDigits_ne_nil
  digit _ := isDigit_of_mem_toDigits
  noLeadingZero := toDigits_ne_zero_cons _
  value := Nat.ofDigitChars_ten_toDigits

theorem length_le (h : IsOctet piece n) : piece.length ≤ 3 := by
  have bound := n.toNat_lt
  rw [h.eq_toDigits, Nat.length_toDigits_le_iff (by decide) (by decide)]
  omega

theorem not_mem (h : IsOctet piece n) : '.' ∉ piece := Toml.not_mem_of_isDigit h.digit rfl

theorem head?_ne (h : IsOctet piece n) (long : 1 < piece.length) :
    (piece.map fun c => c.toNat - 48).head? ≠ some 0 := by
  intro zero
  match piece, h, long, zero with
  | c :: d :: rest, h, _, zero =>
    have first := digitChar_of_isDigit (h.digit c List.mem_cons_self)
    rw [show c.toNat - 48 = 0 from Option.some.inj zero] at first
    exact h.noLeadingZero d rest (by rw [← first]; rfl)

end IsOctet

theorem octet?_eq_some_iff {piece : List Char} {n : UInt8} :
    octet? piece = some n ↔ IsOctet piece n := by
  constructor
  · intro h
    rw [octet?] at h
    split at h
    next => cases h
    next digits read =>
      have digit := Text.isDigit_of_mapM_digit? read
      rw [Toml.mapM_digit?_of_isDigit digit, Option.some.injEq] at read
      subst read
      rw [Toml.digitsValue_map] at h
      split at h
      next => cases h
      next fits =>
        rw [not_or, not_or, not_or, List.map_eq_nil_iff] at fits
        obtain ⟨nonempty, -, lead, bound⟩ := fits
        refine ⟨nonempty, digit, ?_, ?_⟩
        · rintro c rest rfl
          exact lead ⟨by simp, rfl⟩
        · rw [← Option.some.inj h, UInt8.toNat_ofNat']
          omega
  · intro h
    have bound := n.toNat_lt
    have length := h.length_le
    rw [octet?, Toml.mapM_digit?_of_isDigit h.digit]
    simp only [List.length_map, Toml.digitsValue_map, h.value, List.map_eq_nil_iff]
    rw [if_neg, UInt8.ofNat_toNat]
    rw [not_or, not_or, not_or]
    exact ⟨h.nonempty, by omega, fun lead => h.head?_ne lead.1 lead.2, by omega⟩

/-! ## Quads -/

/-- Four octets with single points between them, and nothing else. -/
def IsQuad (cs : List Char) (x : Address) : Prop :=
  ∃ a b c d, cs = a ++ '.' :: (b ++ '.' :: (c ++ '.' :: d)) ∧
    IsOctet a x.a ∧ IsOctet b x.b ∧ IsOctet c x.c ∧ IsOctet d x.d

theorem toList_toString (x : Address) :
    x.toString.toList = Nat.toDigits 10 x.a.toNat ++ '.' :: (Nat.toDigits 10 x.b.toNat ++
      '.' :: (Nat.toDigits 10 x.c.toNat ++ '.' :: Nat.toDigits 10 x.d.toNat)) := by
  simp [Address.toString]

/-- An address is written as a quad, and there is no other quad for it. -/
theorem isQuad_iff {text : String} {x : Address} : IsQuad text.toList x ↔ text = x.toString := by
  rw [← String.toList_inj, toList_toString]
  constructor
  · rintro ⟨a, b, c, d, eq, ha, hb, hc, hd⟩
    rw [eq, ha.eq_toDigits, hb.eq_toDigits, hc.eq_toDigits, hd.eq_toDigits]
  · intro eq
    exact ⟨_, _, _, _, eq, .of_toDigits _, .of_toDigits _, .of_toDigits _, .of_toDigits _⟩

theorem split_eq_iff {cs a b c d : List Char} (ha : '.' ∉ a) (hb : '.' ∉ b) (hc : '.' ∉ c)
    (hd : '.' ∉ d) :
    Text.split '.' cs = [a, b, c, d] ↔ cs = a ++ '.' :: (b ++ '.' :: (c ++ '.' :: d)) := by
  have joined : ['.'].intercalate [a, b, c, d] = a ++ '.' :: (b ++ '.' :: (c ++ '.' :: d)) := by
    simp [List.intercalate_cons_cons]
  rw [Text.split_eq_splitOn, ← joined]
  constructor
  · intro h
    rw [← h, List.intercalate_splitOn]
  · rintro rfl
    apply List.splitOn_intercalate
    · simp [ha, hb, hc, hd]
    · exact List.cons_ne_nil _ _

theorem parse?_eq_some_iff_isQuad {text : String} {x : Address} :
    parse? text = some x ↔ IsQuad text.toList x := by
  constructor
  · intro h
    rw [parse?] at h
    split at h
    next a b c d pieces =>
      simp only [Option.bind_eq_bind, Option.bind_eq_some_iff, octet?_eq_some_iff] at h
      obtain ⟨na, ha, nb, hb, nc, hc, nd, hd, eq⟩ := h
      cases eq
      exact ⟨a, b, c, d, (split_eq_iff ha.not_mem hb.not_mem hc.not_mem hd.not_mem).1 pieces,
        ha, hb, hc, hd⟩
    next => cases h
  · rintro ⟨a, b, c, d, eq, ha, hb, hc, hd⟩
    have pieces := (split_eq_iff ha.not_mem hb.not_mem hc.not_mem hd.not_mem).2 eq
    rw [← octet?_eq_some_iff] at ha hb hc hd
    simp only [parse?, pieces, ha, hb, hc, hd]
    rfl

/-- The texts that are read as an address are those that addresses are written as. -/
theorem parse?_eq_some_iff {text : String} {x : Address} :
    parse? text = some x ↔ text = x.toString :=
  parse?_eq_some_iff_isQuad.trans isQuad_iff

end Address
end WrenchLink

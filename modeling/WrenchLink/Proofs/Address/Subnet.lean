/-
Texts on the same subnet.

A text that is an address lies on one subnet, the upper 24 bits of the address, and any other
text on none: `network?`.  Being on the same subnet is agreeing in that, so it is symmetric and
transitive, and reflexive for addresses.  The search for an interface is a search for the first
text on the board's subnet: `findInterface_is_first_on_subnet`.
-/
import WrenchLink.Subnet

namespace WrenchLink

namespace Address

/-- The 24 bits that the addresses of a subnet share. -/
def network (x : Address) : UInt32 := x.toWord >>> 8

theorem toNat_network (x : Address) :
    x.network.toNat = (x.a.toNat * 256 + x.b.toNat) * 256 + x.c.toNat := by
  have hd := x.d.toNat_lt
  have shift : x.network.toNat = x.toWord.toNat / 256 := by
    rw [network, UInt32.toNat_shiftRight, Nat.shiftRight_eq_div_pow]
    rfl
  rw [shift, x.toNat_toWord]
  omega

theorem network_eq_iff {x y : Address} :
    x.network = y.network ↔ x.a = y.a ∧ x.b = y.b ∧ x.c = y.c := by
  have hxb := x.b.toNat_lt
  have hxc := x.c.toNat_lt
  have hyb := y.b.toNat_lt
  have hyc := y.c.toNat_lt
  rw [← UInt32.toNat_inj, x.toNat_network, y.toNat_network, ← UInt8.toNat_inj, ← UInt8.toNat_inj,
    ← UInt8.toNat_inj]
  omega

end Address

namespace Subnet

variable {board board' interface : String} {interfaces : List String}

/-- The subnet that a text's address lies on, if the text is an address. -/
def network? (text : String) : Option UInt32 := (Address.parse? text).map Address.network

theorem sameSubnet_iff :
    sameSubnet board interface = true ↔
      ∃ n, network? board = some n ∧ network? interface = some n := by
  rw [sameSubnet, network?, network?]
  cases Address.parse? board with
  | none => simp
  | some x =>
    cases Address.parse? interface with
    | none => simp
    | some y =>
      simp only [Option.map_some, Option.some.injEq, exists_eq_left', Bool.and_eq_true, beq_iff_eq]
      rw [and_assoc, eq_comm (a := y.network), Address.network_eq_iff]

theorem sameSubnet_comm (board interface : String) :
    sameSubnet board interface = sameSubnet interface board := by
  rw [Bool.eq_iff_iff, sameSubnet_iff, sameSubnet_iff]
  simp only [and_comm]

/-- Texts on the same subnet are on it with the same texts. -/
theorem sameSubnet_congr (h : sameSubnet board board' = true) (interface : String) :
    sameSubnet board interface = sameSubnet board' interface := by
  obtain ⟨n, hn, hn'⟩ := sameSubnet_iff.1 h
  rw [Bool.eq_iff_iff, sameSubnet_iff, sameSubnet_iff, hn, hn']

theorem sameSubnet_self_iff (text : String) :
    sameSubnet text text = true ↔ ∃ x, Address.parse? text = some x := by
  rw [sameSubnet_iff, network?]
  cases Address.parse? text <;> simp

theorem sameSubnet_of_parse?_eq_none (h : Address.parse? board = none) (interface : String) :
    sameSubnet board interface = false := by
  rw [sameSubnet, h]

theorem sameSubnet_iff_of_parse? {x y : Address} (hx : Address.parse? board = some x)
    (hy : Address.parse? interface = some y) :
    sameSubnet board interface = true ↔ x.toWord >>> 8 = y.toWord >>> 8 := by
  rw [sameSubnet_iff, network?, network?, hx, hy, Option.map_some, Option.map_some]
  simp only [Option.some.injEq, exists_eq_left']
  exact eq_comm

/-! ## The search -/

theorem findInterface_eq_some_iff :
    findInterface board interfaces = some interface ↔
      ∃ i : Nat, interfaces[i]? = some interface ∧ sameSubnet board interface = true ∧
        ∀ j < i, ∀ earlier, interfaces[j]? = some earlier → sameSubnet board earlier = false := by
  rw [findInterface, List.find?_eq_some_iff_getElem]
  simp only [Bool.not_eq_true']
  constructor
  · rintro ⟨same, i, hi, eq, before⟩
    refine ⟨i, List.getElem?_eq_some_iff.2 ⟨hi, eq⟩, same, ?_⟩
    intro j hj earlier found
    obtain ⟨-, rfl⟩ := List.getElem?_eq_some_iff.1 found
    exact before j hj
  · rintro ⟨i, found, same, before⟩
    obtain ⟨hi, eq⟩ := List.getElem?_eq_some_iff.1 found
    refine ⟨same, i, hi, eq, ?_⟩
    intro j hj
    exact before j hj _ (List.getElem?_eq_getElem (Nat.lt_trans hj hi))

theorem findInterface_eq_none_iff :
    findInterface board interfaces = none ↔
      ∀ interface ∈ interfaces, sameSubnet board interface = false := by
  rw [findInterface, List.find?_eq_none]
  simp only [Bool.not_eq_true]

theorem findInterface_congr (h : sameSubnet board board' = true) (interfaces : List String) :
    findInterface board interfaces = findInterface board' interfaces := by
  rw [findInterface, findInterface, funext (sameSubnet_congr h)]

theorem findInterface_insert (front back : List String) {others : List String}
    (h : ∀ other ∈ others, sameSubnet board other = false) :
    findInterface board (front ++ others ++ back) = findInterface board (front ++ back) := by
  have none_found : others.find? (sameSubnet board) = none := findInterface_eq_none_iff.2 h
  rw [findInterface, findInterface, List.find?_append, List.find?_append, List.find?_append,
    none_found, Option.or_none]

/-- Being on the same subnet is a partial equivalence, defined on the texts that are addresses
and decided by the upper 24 bits of those.  The interface that is found is the first text on the
board's subnet; which board of the subnet it is sought for does not matter, and neither do the
texts that are on another subnet or on none. -/
theorem findInterface_is_first_on_subnet :
    (∀ s t, sameSubnet s t = sameSubnet t s) ∧
    (∀ s t u, sameSubnet s t = true → sameSubnet t u = true → sameSubnet s u = true) ∧
    (∀ s, sameSubnet s s = true ↔ ∃ x, Address.parse? s = some x) ∧
    (∀ s t x y, Address.parse? s = some x → Address.parse? t = some y →
      (sameSubnet s t = true ↔ x.toWord >>> 8 = y.toWord >>> 8)) ∧
    (∀ s t, Address.parse? s = none ∨ Address.parse? t = none → sameSubnet s t = false) ∧
    (∀ board interfaces interface, findInterface board interfaces = some interface ↔
      ∃ i : Nat, interfaces[i]? = some interface ∧ sameSubnet board interface = true ∧
        ∀ j < i, ∀ earlier, interfaces[j]? = some earlier → sameSubnet board earlier = false) ∧
    (∀ board interfaces, findInterface board interfaces = none ↔
      ∀ interface ∈ interfaces, sameSubnet board interface = false) ∧
    (∀ board board' interfaces, sameSubnet board board' = true →
      findInterface board interfaces = findInterface board' interfaces) ∧
    (∀ board interfaces, Address.parse? board = none → findInterface board interfaces = none) ∧
    ∀ board front others back, (∀ other ∈ others, sameSubnet board other = false) →
      findInterface board (front ++ others ++ back) = findInterface board (front ++ back) := by
  refine ⟨sameSubnet_comm, ?_, sameSubnet_self_iff, fun _ _ _ _ => sameSubnet_iff_of_parse?, ?_,
    fun _ _ _ => findInterface_eq_some_iff, fun _ _ => findInterface_eq_none_iff,
    fun _ _ interfaces h => findInterface_congr h interfaces, ?_,
    fun _ front _ back => findInterface_insert front back⟩
  · intro s t u hst htu
    rw [sameSubnet_congr hst, htu]
  · rintro s t (hs | ht)
    · exact sameSubnet_of_parse?_eq_none hs t
    · rw [sameSubnet_comm, sameSubnet_of_parse?_eq_none ht]
  · intro board interfaces h
    exact findInterface_eq_none_iff.2 fun interface _ => sameSubnet_of_parse?_eq_none h interface

end Subnet
end WrenchLink

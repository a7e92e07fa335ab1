/-
The addresses of a configuration.

The address of an interface or board is a text, and it is an address if it is the dotted quad of
one.  Any other text is reported as it stands: `configured_addresses_are_quads`.
-/
import WrenchLink.Config.Basic
import WrenchLink.Proofs.Address.DottedQuad
import WrenchLink.Proofs.Address.Subnet

namespace WrenchLink

theorem parseAddress_eq_ok_iff {text : String} {address : Address} :
    parseAddress text = .ok address ↔ Address.parse? text = some address := by
  rw [parseAddress]
  cases Address.parse? text <;> simp

theorem parseAddress_eq_error_iff {text : String} {e : ConfigFault} :
    parseAddress text = .error e ↔ Address.parse? text = none ∧ e = .invalidAddress text := by
  rw [parseAddress]
  cases Address.parse? text <;> simp [eq_comm]

theorem parseAddress_eq_ok_iff_toString {text : String} {address : Address} :
    parseAddress text = .ok address ↔ text = address.toString :=
  parseAddress_eq_ok_iff.trans Address.parse?_eq_some_iff

theorem eq_iff_of_parseAddress {text other : String} {x y : Address}
    (hx : parseAddress text = .ok x) (hy : parseAddress other = .ok y) :
    x = y ↔ text = other := by
  constructor
  · rintro rfl
    rw [parseAddress_eq_ok_iff_toString.1 hx, parseAddress_eq_ok_iff_toString.1 hy]
  · rintro rfl
    rw [hx] at hy
    exact Except.ok.inj hy

theorem parseAddress_of_forall_ne {text : String}
    (h : ∀ address : Address, text ≠ address.toString) :
    parseAddress text = .error (.invalidAddress text) := by
  rw [parseAddress_eq_error_iff]
  refine ⟨?_, rfl⟩
  rw [Option.eq_none_iff_forall_ne_some]
  exact fun address read => h address (Address.parse?_eq_some_iff.1 read)

theorem sameSubnet_iff_parseAddress (text other : String) :
    Subnet.sameSubnet text other = true ↔
      ∃ x y, parseAddress text = .ok x ∧ parseAddress other = .ok y ∧
        x.toWord >>> 8 = y.toWord >>> 8 := by
  simp only [parseAddress_eq_ok_iff]
  constructor
  · intro same
    obtain ⟨n, hn, hn'⟩ := Subnet.sameSubnet_iff.1 same
    obtain ⟨x, hx, eq⟩ := Option.map_eq_some_iff.1 hn
    obtain ⟨y, hy, eq'⟩ := Option.map_eq_some_iff.1 hn'
    exact ⟨x, y, hx, hy, eq.trans eq'.symm⟩
  · rintro ⟨x, y, hx, hy, eq⟩
    exact (Subnet.sameSubnet_iff_of_parse? hx hy).2 eq

/-- What a configuration has for an address is read as one exactly if it is what that address is
written as: four octets between single points, in digits without a zero in front.  So each
address has one text.  Any other text is reported, and the texts that are compared by subnet are
the same that a configuration accepts. -/
theorem configured_addresses_are_quads :
    (∀ (address : Address) (port : UInt16), (BoardConfig.new address port).ip = .ok address) ∧
    (∀ address : Address, (ManagerConfig.new address).localIp = .ok address) ∧
    (∀ b : BoardConfig, b.ip = parseAddress b.address) ∧
    (∀ c : ManagerConfig, c.localIp = parseAddress c.localAddress) ∧
    (∀ (text : String) (address : Address),
      parseAddress text = .ok address ↔ text = address.toString) ∧
    (∀ (text : String) (address : Address),
      text = address.toString ↔ Address.IsQuad text.toList address) ∧
    (∀ text, (∀ address : Address, text ≠ address.toString) →
      parseAddress text = .error (.invalidAddress text)) ∧
    (∀ text, (Fault.config (.invalidAddress text)).message =
      "Configuration error: invalid IPv4 address: " ++ Text.quoted text) ∧
    (∀ text other x y, parseAddress text = .ok x → parseAddress other = .ok y →
      (x = y ↔ text = other)) ∧
    (∀ text, Subnet.sameSubnet text text = true ↔ ∃ x, parseAddress text = .ok x) ∧
    ∀ text other, Subnet.sameSubnet text other = true ↔
      ∃ x y, parseAddress text = .ok x ∧ parseAddress other = .ok y ∧
        x.toWord >>> 8 = y.toWord >>> 8 := by
  refine ⟨?_, ?_, fun _ => rfl, fun _ => rfl, fun _ _ => parseAddress_eq_ok_iff_toString,
    fun _ _ => Address.isQuad_iff.symm, fun _ => parseAddress_of_forall_ne, ?_,
    fun _ _ _ _ => eq_iff_of_parseAddress, ?_, sameSubnet_iff_parseAddress⟩
  · intro address port
    exact parseAddress_eq_ok_iff_toString.2 rfl
  · intro address
    exact parseAddress_eq_ok_iff_toString.2 rfl
  · intro text
    have joined : "Configuration error: " ++ "invalid IPv4 address: " =
        "Configuration error: invalid IPv4 address: " := by decide
    rw [← joined, String.append_assoc]
    rfl
  · intro text
    simp only [parseAddress_eq_ok_iff]
    exact Subnet.sameSubnet_self_iff text

end WrenchLink

/-
The manager that a configuration describes.

`Manager.Registers` says that the boards are those of a list of configurations, as they are
before anything was connected.  Adding one more board keeps it (`Registers.addBoard`), so it
holds of the manager that a valid configuration is built into: `exists_ofConfig`.
-/
import WrenchLink.Manager.Configured
import WrenchLink.Proofs.Manager.Follows

namespace WrenchLink

variable {η : Type}

theorem forM_eq_ok_iff {ε α : Type} {f : α → Except ε Unit} {l : List α} :
    l.forM f = .ok () ↔ ∀ x ∈ l, f x = .ok () := by
  induction l with
  | nil => simp [List.forM, pure, Except.pure]
  | cons x rest ih =>
    show (f x >>= fun _ => rest.forM f) = .ok () ↔ _
    simp only [bind_eq_ok_iff, ih, List.forall_mem_cons]
    exact ⟨fun ⟨(), hx, hrest⟩ => ⟨hx, hrest⟩, fun ⟨hx, hrest⟩ => ⟨(), hx, hrest⟩⟩

theorem ManagerConfig.validate_eq_ok_iff (c : ManagerConfig) :
    c.validate = .ok () ↔
      c.boards.length ≤ maxBoards ∧ c.timeoutMs ≠ 0 ∧ (∃ address, c.localIp = .ok address) ∧
        ∀ b ∈ c.boards, ∃ address, b.ip = .ok address := by
  have hip : ∀ b : BoardConfig,
      (b.ip.map fun _ => ()) = .ok () ↔ ∃ address, b.ip = .ok address := by
    intro b
    cases b.ip <;> simp [Except.map]
  rw [validate]
  split
  · rename_i hlt
    simp only [reduceCtorEq, false_iff]
    omega
  · rename_i hle
    split
    · rename_i hzero
      simp [hzero]
    · rename_i hpositive
      simp only [bind_eq_ok_iff, forM_eq_ok_iff, hip]
      simp [hpositive, Nat.le_of_not_lt hle]

def BoardConfig.specAt (c : BoardConfig) (address : Address) : BoardSpec :=
  ⟨address, c.tcpService, c.tcpPort, c.udpService, c.udpPort⟩

theorem BoardConfig.spec_of_ip {c : BoardConfig} {address : Address} (h : c.ip = .ok address) :
    c.spec = .ok (c.specAt address) := by
  rw [spec, h]
  rfl

namespace Manager

structure Registers (m : Manager η) (configs : List BoardConfig) : Prop where
  count : m.boards.length = configs.length
  board : ∀ i c, configs[i]? = some c → ∃ address, c.ip = .ok address ∧
    m.boards[i]? = some (Board.new i (c.specAt address) m.tcpReadTimeout)

namespace Registers

variable {m : Manager η} {configs : List BoardConfig}

theorem exists_of_mem (h : m.Registers configs) {b : Board η} (hb : b ∈ m.boards) :
    ∃ i c address, configs[i]? = some c ∧ c.ip = .ok address ∧
      b = Board.new i (c.specAt address) m.tcpReadTimeout := by
  obtain ⟨i, hi⟩ := List.mem_iff_getElem?.mp hb
  obtain ⟨hlt, -⟩ := List.getElem?_eq_some_iff.mp hi
  rw [h.count] at hlt
  have hc : configs[i]? = some configs[i] := List.getElem?_eq_getElem hlt
  obtain ⟨address, haddress, hboard⟩ := h.board i configs[i] hc
  exact ⟨i, configs[i], address, hc, haddress, Option.some.inj (hi.symm.trans hboard)⟩

theorem exists_tcpService_iff (h : m.Registers configs) :
    (∃ b ∈ m.boards, b.tcpService = true) ↔ ∃ c ∈ configs, c.tcpService = true := by
  constructor
  · rintro ⟨b, hb, htcp⟩
    obtain ⟨i, c, address, hc, -, rfl⟩ := h.exists_of_mem hb
    exact ⟨c, List.mem_of_getElem? hc, htcp⟩
  · rintro ⟨c, hc, htcp⟩
    obtain ⟨i, hi⟩ := List.mem_iff_getElem?.mp hc
    obtain ⟨address, -, hboard⟩ := h.board i c hi
    exact ⟨_, List.mem_of_getElem? hboard, htcp⟩

theorem addBoard (h : m.Registers configs) {c : BoardConfig} {address : Address}
    (haddress : c.ip = .ok address) (hroom : configs.length < maxBoards) :
    ∃ boards lastSeen,
      m.addBoard (c.specAt address) = (.ok m.boards.length, { m with boards, lastSeen }) ∧
        ({ m with boards, lastSeen } : Manager η).Registers (configs ++ [c]) := by
  have hnot : ¬maxBoards ≤ m.boards.length := by
    rw [h.count]
    omega
  refine ⟨_, _, if_neg hnot, by simp [h.count], fun i d hd => ?_⟩
  rw [getElem?_concat_eq_ite] at hd
  split at hd
  · rename_i hi
    obtain rfl := Option.some.inj hd
    refine ⟨address, haddress, ?_⟩
    rw [hi, ← h.count, List.getElem?_concat_length]
  · rename_i hi
    obtain ⟨old, hold, hboard⟩ := h.board i d hd
    refine ⟨old, hold, ?_⟩
    rw [getElem?_concat_eq_ite, h.count, if_neg hi]
    exact hboard

theorem addConfigured (h : m.Registers configs) {rest : List BoardConfig}
    (hroom : configs.length + rest.length ≤ maxBoards)
    (hips : ∀ c ∈ rest, ∃ address, c.ip = .ok address) :
    ∃ boards lastSeen, m.addConfigured rest = .ok { m with boards, lastSeen } ∧
      ({ m with boards, lastSeen } : Manager η).Registers (configs ++ rest) := by
  induction rest generalizing m configs with
  | nil => exact ⟨m.boards, m.lastSeen, rfl, by simpa using h⟩
  | cons c rest ih =>
    rw [List.length_cons] at hroom
    obtain ⟨address, haddress⟩ := hips c List.mem_cons_self
    obtain ⟨boards, lastSeen, hadd, hnext⟩ := h.addBoard haddress (by omega)
    obtain ⟨allBoards, allSeen, hrest, hall⟩ := ih hnext
      (by rw [List.length_append, List.length_singleton]; omega)
      fun d hd => hips d (List.mem_cons_of_mem c hd)
    refine ⟨allBoards, allSeen, ?_, by simpa using hall⟩
    rw [Manager.addConfigured, BoardConfig.spec_of_ip haddress]
    show ((m.addBoard _).1 >>= fun _ => (m.addBoard _).2.addConfigured rest) = _
    rw [hadd]
    exact hrest

end Registers

/-- The manager of a configuration before its boards are added. -/
def unpopulated (c : ManagerConfig) (address : Address) : Manager η :=
  ((new ⟨address, c.port⟩).withTimeout c.timeoutMs.toNat).withTcpReadTimeout
    (c.sensor.tcpReadTimeoutMs.map UInt64.toNat)

theorem exists_ofConfig {c : ManagerConfig} (h : c.validate = .ok ()) :
    ∃ address boards lastSeen, c.localIp = .ok address ∧
      ofConfig c = .ok { unpopulated c address with boards, lastSeen } ∧
      ({ unpopulated c address with boards, lastSeen } : Manager η).Registers c.boards := by
  obtain ⟨hcount, -, ⟨address, haddress⟩, hips⟩ := (c.validate_eq_ok_iff).mp h
  have hempty : (unpopulated c address : Manager η).Registers [] := ⟨rfl, nofun⟩
  obtain ⟨boards, lastSeen, hadd, hregisters⟩ :=
    hempty.addConfigured (by simpa using hcount) hips
  refine ⟨address, boards, lastSeen, haddress, ?_, hregisters⟩
  rw [ofConfig, h, haddress]
  exact hadd

theorem ofConfig_of_valid {c : ManagerConfig} (h : c.validate = .ok ()) :
    ∃ (m : Manager η) (address : Address), ofConfig c = .ok m ∧ c.localIp = .ok address ∧
      m.interface = ⟨address, c.port⟩ ∧ m.timeout = c.timeoutMs.toNat ∧
      m.tcpReadTimeout = c.sensor.tcpReadTimeoutMs.map UInt64.toNat ∧ m.socket = none ∧
      m.Registers c.boards := by
  obtain ⟨address, boards, lastSeen, haddress, hm, hregisters⟩ := exists_ofConfig (η := η) h
  exact ⟨_, address, hm, haddress, rfl, rfl, rfl, rfl, hregisters⟩

end Manager
end WrenchLink

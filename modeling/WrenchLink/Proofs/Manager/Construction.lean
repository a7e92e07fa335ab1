/-
Validation is exactly what building a manager needs.

`ManagerConfig.FailsFirst` says which check of a configuration is the first that it does not
pass, and validation reports just that one (`validate_eq_error_iff`).  Whatever is valid is
built into a manager that carries every setting, `Manager.Carries`.
-/
import WrenchLink.Proofs.Config.Description
import WrenchLink.Proofs.Config.Address
import WrenchLink.Proofs.Manager.Registration

namespace WrenchLink

variable {η : Type}

/-- A traversal fails with the fault of the first element that has one. -/
theorem forM_eq_error_iff {ε α : Type} {f : α → Except ε Unit} {l : List α} {e : ε} :
    l.forM f = .error e ↔
      ∃ before x after, l = before ++ x :: after ∧ (∀ y ∈ before, f y = .ok ()) ∧
        f x = .error e := by
  induction l with
  | nil => simp [List.forM, pure, Except.pure]
  | cons x rest ih =>
    show (f x >>= fun _ => rest.forM f) = .error e ↔ _
    rw [bind_eq_error_iff, ih]
    constructor
    · rintro (hx | ⟨⟨⟩, hx, before, y, after, rfl, hbefore, hy⟩)
      · exact ⟨[], x, rest, rfl, fun y hy => absurd hy List.not_mem_nil, hx⟩
      · refine ⟨x :: before, y, after, rfl, ?_, hy⟩
        simpa [hx] using hbefore
    · rintro ⟨before, y, after, hsplit, hbefore, hy⟩
      cases before with
      | nil =>
        obtain ⟨rfl, -⟩ := List.cons.inj hsplit
        exact Or.inl hy
      | cons z before =>
        obtain ⟨rfl, rfl⟩ := List.cons.inj hsplit
        rw [List.forall_mem_cons] at hbefore
        exact Or.inr ⟨(), hbefore.1, before, y, after, rfl, hbefore.2, hy⟩

namespace ManagerConfig

variable {c : ManagerConfig} {e : ConfigFault}

/-- The first check that a configuration does not pass, and the fault that reports it. -/
inductive FailsFirst (c : ManagerConfig) : ConfigFault → Prop where
  | boardCount (hmany : maxBoards < c.boards.length) :
    FailsFirst c (.tooManyBoards c.boards.length)
  | timeout (hfew : c.boards.length ≤ maxBoards) (hzero : c.timeoutMs = 0) :
    FailsFirst c .zeroTimeout
  | localAddress (hfew : c.boards.length ≤ maxBoards) (hpositive : c.timeoutMs ≠ 0)
    (hlocal : Address.parse? c.localAddress = none) :
    FailsFirst c (.invalidAddress c.localAddress)
  | board {before after : List BoardConfig} {b : BoardConfig}
    (hfew : c.boards.length ≤ maxBoards) (hpositive : c.timeoutMs ≠ 0)
    (hlocal : (Address.parse? c.localAddress).isSome)
    (hboards : c.boards = before ++ b :: after)
    (hbefore : ∀ d ∈ before, (Address.parse? d.address).isSome)
    (haddress : Address.parse? b.address = none) :
    FailsFirst c (.invalidAddress b.address)

theorem map_ip_eq_ok_iff (b : BoardConfig) :
    (b.ip.map fun _ => ()) = .ok () ↔ (Address.parse? b.address).isSome := by
  rw [BoardConfig.ip, parseAddress]
  cases Address.parse? b.address <;> simp [Except.map]

theorem map_ip_eq_error_iff (b : BoardConfig) :
    (b.ip.map fun _ => ()) = .error e ↔
      Address.parse? b.address = none ∧ e = .invalidAddress b.address := by
  rw [BoardConfig.ip, parseAddress]
  cases Address.parse? b.address <;> simp [Except.map, eq_comm]

theorem validate_eq_error_iff : c.validate = .error e ↔ c.FailsFirst e := by
  rw [validate]
  split
  · rename_i hmany
    constructor
    · intro h
      cases h
      exact .boardCount hmany
    · intro h
      cases h with
      | boardCount => rfl
      | timeout hfew | localAddress hfew | board hfew => omega
  · rename_i hfew
    rw [Nat.not_lt] at hfew
    split
    · rename_i hzero
      constructor
      · intro h
        cases h
        exact .timeout hfew hzero
      · intro h
        cases h with
        | boardCount hmany => omega
        | timeout => rfl
        | localAddress _ hpositive | board _ hpositive => exact absurd hzero hpositive
    · rename_i hpositive
      simp only [bind_eq_error_iff, forM_eq_error_iff, map_ip_eq_ok_iff, map_ip_eq_error_iff,
        localIp, parseAddress_eq_error_iff, parseAddress_eq_ok_iff]
      constructor
      · rintro (⟨hlocal, rfl⟩ | ⟨a, hlocal, before, b, after, hboards, hbefore, haddress, rfl⟩)
        · exact .localAddress hfew hpositive hlocal
        · exact .board hfew hpositive (by rw [hlocal]; rfl) hboards hbefore haddress
      · intro h
        cases h with
        | boardCount hmany => omega
        | timeout _ hzero => exact absurd hzero hpositive
        | localAddress _ _ hlocal => exact Or.inl ⟨hlocal, rfl⟩
        | @board before after b _ _ hlocal hboards hbefore haddress =>
          obtain ⟨a, ha⟩ := Option.isSome_iff_exists.mp hlocal
          exact Or.inr ⟨a, ha, before, b, after, hboards, hbefore, haddress, rfl⟩

end ManagerConfig

/-- The board has every setting of its configuration, and neither a connection nor observers. -/
structure Board.Carries (b : Board η) (d : BoardConfig) (readTimeout : Option Nat) : Prop where
  address : Address.parse? d.address = some b.address
  tcpService : b.tcpService = d.tcpService
  udpService : b.udpService = d.udpService
  peer : b.tcp.peer = ⟨b.address, d.tcpPort⟩
  destination : b.udp.destination = ⟨b.address, d.udpPort⟩
  readTimeout : b.tcp.readTimeout = readTimeout
  unconnected : b.tcp.isConnected = false
  unobserved : b.registry.count = 0

namespace Manager

/-- The manager has every setting of the configuration and nothing else yet. -/
structure Carries (m : Manager η) (c : ManagerConfig) : Prop where
  localAddress : Address.parse? c.localAddress = some m.interface.address
  port : m.interface.port = c.port
  timeout : m.timeout = c.timeoutMs.toNat
  count : m.boards.length = c.boards.length
  board : ∀ i (d : BoardConfig), c.boards[i]? = some d → ∃ b : Board η, m.boards[i]? = some b ∧
    b.id = i ∧ b.Carries d (c.sensor.tcpReadTimeoutMs.map UInt64.toNat)
  unbound : m.isBound = false
  idle : m.receiving = false
  unwatched : m.timeoutHandler = none

theorem Registers.carries {m : Manager η} {c : ManagerConfig} (h : m.Registers c.boards)
    (hlocal : c.localIp = .ok m.interface.address) (hport : m.interface.port = c.port)
    (htimeout : m.timeout = c.timeoutMs.toNat)
    (hbound : m.tcpReadTimeout = c.sensor.tcpReadTimeoutMs.map UInt64.toNat)
    (hsocket : m.socket = none) (hidle : m.receiving = false)
    (hhandler : m.timeoutHandler = none) : m.Carries c where
  localAddress := parseAddress_eq_ok_iff.mp hlocal
  port := hport
  timeout := htimeout
  count := h.count
  board := by
    intro i d hd
    obtain ⟨address, haddress, hboard⟩ := h.board i d hd
    exact ⟨_, hboard, rfl,
      ⟨parseAddress_eq_ok_iff.mp haddress, rfl, rfl, rfl, rfl, hbound, rfl, rfl⟩⟩
  unbound := by rw [isBound, hsocket]; rfl
  idle := hidle
  unwatched := hhandler

theorem exists_ofConfig_carries_iff {c : ManagerConfig} :
    (∃ m : Manager η, ofConfig c = .ok m ∧ m.Carries c) ↔ c.validate = .ok () := by
  constructor
  · rintro ⟨m, hm, -⟩
    cases hvalid : c.validate with
    | ok => rfl
    | error e =>
      rw [ofConfig, hvalid] at hm
      cases hm
  · intro hvalid
    obtain ⟨address, boards, lastSeen, hlocal, hm, hregisters⟩ := exists_ofConfig (η := η) hvalid
    exact ⟨_, hm, hregisters.carries hlocal rfl rfl rfl rfl rfl rfl⟩

theorem ofConfig_eq_error_iff {c : ManagerConfig} {fault : Fault} :
    (ofConfig c : Except Fault (Manager η)) = .error fault ↔
      ∃ e, c.validate = .error e ∧ fault = .config e := by
  cases hvalid : c.validate with
  | ok =>
    obtain ⟨m, hm, -⟩ := exists_ofConfig_carries_iff (η := η).mpr hvalid
    simp [hm]
  | error e =>
    have hfails : (ofConfig c : Except Fault (Manager η)) = .error (.config e) := by
      rw [ofConfig, hvalid]
      rfl
    simp [hfails, eq_comm]

end Manager

/-- Validation passes exactly the configurations with few enough boards, a positive timeout and
addresses that are dotted quads, and of the others reports the first check that fails.  Building
a manager fails exactly where validation does, and with the same fault; otherwise the manager
carries every setting.  So whatever is read from a document can be built. -/
theorem Manager.ofConfig_decided_by_validate (c : ManagerConfig) :
    (c.validate = .ok () ↔ c.boards.length ≤ maxBoards ∧ 0 < c.timeoutMs ∧
      (Address.parse? c.localAddress).isSome ∧
      ∀ b ∈ c.boards, (Address.parse? b.address).isSome) ∧
    (∀ e, c.validate = .error e ↔ c.FailsFirst e) ∧
    (∀ fault, (ofConfig c : Except Fault (Manager η)) = .error fault ↔
      ∃ e, c.validate = .error e ∧ fault = .config e) ∧
    (ofConfig c : Except Fault (Manager η)) ≠ .error .boardLimitReached ∧
    (∀ m : Manager η, ofConfig c = .ok m → m.Carries c) ∧
    (∀ text, ManagerConfig.parse text = .ok c →
      ∃ m : Manager η, ofConfig c = .ok m ∧ m.Carries c) := by
  refine ⟨?_, fun e => ManagerConfig.validate_eq_error_iff, fun fault => ofConfig_eq_error_iff,
    fun h => ?_, fun m hm => ?_, fun text h => ?_⟩
  · rw [c.validate_eq_ok_iff]
    have hpositive : 0 < c.timeoutMs ↔ c.timeoutMs ≠ 0 := by
      simp [UInt64.lt_iff_toNat_lt, ← UInt64.toNat_inj, Nat.pos_iff_ne_zero]
    simp only [ManagerConfig.localIp, BoardConfig.ip, parseAddress_eq_ok_iff, hpositive,
      Option.isSome_iff_exists]
  · obtain ⟨e, -, hfault⟩ := ofConfig_eq_error_iff.mp h
    cases hfault
  · have hvalid : c.validate = .ok () := by
      cases hvalid : c.validate with
      | ok => rfl
      | error e =>
        have hfails := ofConfig_eq_error_iff (η := η).mpr ⟨e, hvalid, rfl⟩
        rw [hm] at hfails
        cases hfails
    obtain ⟨n, hn, hcarries⟩ := exists_ofConfig_carries_iff.mpr hvalid
    rw [hm] at hn
    cases hn
    exact hcarries
  · exact exists_ofConfig_carries_iff.mpr (ManagerConfig.validate_of_parse h)

end WrenchLink

/-
What a document says of a configuration.

A root table describes a configuration if what it has under each key is that setting, written in
full, and whatever it has nothing under is at its default.  Reading a table gives exactly what it
describes, and if it describes nothing, because an address is missing or a value is of the wrong
kind or out of range, the document is malformed.  So the known keys decide the outcome, and no
number is wrapped to fit: `known_keys_decide_configuration`.
-/
import WrenchLink.Proofs.Config.Keys
import WrenchLink.Proofs.Config.RoundTrip
import Mathlib.Data.List.Forall2

namespace WrenchLink

open Toml

/-- A list is read one by one. -/
theorem mapM_eq_some_iff {α β : Type} {f : α → Option β} {xs : List α} {ys : List β} :
    xs.mapM f = some ys ↔ List.Forall₂ (fun x y => f x = some y) xs ys := by
  induction xs generalizing ys with
  | nil => simp [eq_comm]
  | cons x xs ih =>
    rw [List.mapM_cons, List.forall₂_cons_left_iff]
    constructor
    · intro h
      obtain ⟨y, first, h⟩ := Option.bind_eq_some_iff.1 h
      obtain ⟨ys', others, same⟩ := Option.bind_eq_some_iff.1 h
      cases same
      exact ⟨y, ys', first, ih.1 others, rfl⟩
    · rintro ⟨y, ys', first, others, rfl⟩
      refine Option.bind_eq_some_iff.2 ⟨y, first, ?_⟩
      exact Option.bind_eq_some_iff.2 ⟨ys', ih.2 others, rfl⟩

/-! ## Single values -/

namespace Toml

/-- The table has such a value under a key, or has none and then the other holds. -/
def Says (table : List (String × Value)) (key : String) (P : Value → Prop) (absent : Prop) :
    Prop :=
  match lookup key table with
  | none => absent
  | some v => P v

theorem setting?_eq_some_iff {α : Type} {table : List (String × Value)} {key : String}
    {read? : Value → Option α} {default a : α} {P : Value → Prop}
    (reads : ∀ v, lookup key table = some v → (read? v = some a ↔ P v)) :
    setting? table key read? default = some a ↔ Says table key P (a = default) := by
  rw [setting?, Says]
  cases found : lookup key table with
  | none => exact Option.some_inj.trans eq_comm
  | some v => exact reads v found

namespace Value

variable {v : Value}

/-- The number as a document writes it, the same up to rounding to single precision. -/
def IsNumber (x : Binary32) : Value → Prop
  | .integer n => x = .ofInt n
  | .float y => x = y.toBinary32
  | _ => False

/-- The duration as a document writes it, which can hold no longer ones. -/
def IsDuration (ms : UInt64) (v : Value) : Prop :=
  v = .integer ms.toNat ∧ ms.toNat < 9223372036854775808

/-- An integer that is not negative and below a bound. -/
def IsIntegerBelow (bound : Int) (v : Value) : Prop := ∃ n, v = .integer n ∧ 0 ≤ n ∧ n < bound

theorem string?_eq_some_iff {text : String} : v.string? = some text ↔ v = .string text := by
  cases v <;> simp [string?]

theorem boolean?_eq_some_iff {b : Bool} : v.boolean? = some b ↔ v = .boolean b := by
  cases v <;> simp [boolean?]

theorem binary32?_eq_some_iff {x : Binary32} : v.binary32? = some x ↔ v.IsNumber x := by
  cases v <;> simp [binary32?, IsNumber, eq_comm]

theorem natBelow?_eq_some_iff {bound n : Nat} :
    v.natBelow? bound = some n ↔ v = .integer n ∧ n < bound := by
  cases v with
  | integer k =>
    rw [natBelow?, integer.injEq]
    split
    · rw [Option.some_inj]
      omega
    · simp only [reduceCtorEq, false_iff]
      omega
  | _ => simp [natBelow?]

end Value

end Toml

theorem readPort?_eq_some_iff {v : Value} {port : UInt16} :
    readPort? v = some port ↔ v = .integer port.toNat := by
  constructor
  · intro h
    obtain ⟨n, read, rfl⟩ := Option.map_eq_some_iff.1 h
    obtain ⟨rfl, bound⟩ := Value.natBelow?_eq_some_iff.1 read
    rw [UInt16.toNat_ofNat_of_lt' bound]
  · rintro rfl
    exact readPort?_toNat port

theorem readMilliseconds?_eq_some_iff {v : Value} (h : v.WellFormed) {ms : UInt64} :
    readMilliseconds? v = some ms ↔ v.IsDuration ms := by
  constructor
  · intro read
    obtain ⟨n, inside, rfl⟩ := Option.map_eq_some_iff.1 read
    obtain ⟨rfl, bound⟩ := Value.natBelow?_eq_some_iff.1 inside
    rw [Value.IsDuration, UInt64.toNat_ofNat_of_lt' bound]
    refine ⟨rfl, ?_⟩
    cases h with
    | integer range =>
      rw [inRange, Bool.and_eq_true, decide_eq_true_eq, decide_eq_true_eq] at range
      omega
  · rintro ⟨rfl, -⟩
    exact readMilliseconds?_toNat ms

/-- The bound on the wait for a reply, which is not waited for if there is none. -/
theorem map_readMilliseconds?_eq_some_iff {v : Value} (h : v.WellFormed) {ms : Option UInt64} :
    (readMilliseconds? v).map some = some ms ↔ ∃ n, ms = some n ∧ v.IsDuration n := by
  rw [Option.map_eq_some_iff]
  constructor
  · rintro ⟨n, read, rfl⟩
    exact ⟨n, rfl, (readMilliseconds?_eq_some_iff h).1 read⟩
  · rintro ⟨n, rfl, duration⟩
    exact ⟨n, (readMilliseconds?_eq_some_iff h).2 duration, rfl⟩

theorem isIntegerBelow_of_port {v : Value} {port : UInt16} (h : v = .integer port.toNat) :
    v.IsIntegerBelow 65536 := by
  have := port.toNat_lt
  exact ⟨_, h, by omega, by omega⟩

theorem Toml.Value.IsDuration.isIntegerBelow {v : Value} {ms : UInt64} (h : v.IsDuration ms) :
    v.IsIntegerBelow 9223372036854775808 := by
  obtain ⟨eq, bound⟩ := h
  exact ⟨_, eq, by omega, by omega⟩

theorem required?_string_eq_some_iff {table : List (String × Value)} {key text : String} :
    required? table key Value.string? = some text ↔ lookup key table = some (.string text) := by
  rw [required?, Option.bind_eq_some_iff]
  simp only [Value.string?_eq_some_iff, exists_eq_right]

/-! ## The parts of a configuration -/

namespace Limits

/-- The table says what the limits are. -/
structure DescribedBy (l : Limits) (table : List (String × Value)) : Prop where
  maxForceXY : Says table "max_force_xy" (·.IsNumber l.maxForceXY) (l.maxForceXY = .ofInt 50000)
  maxForceZ : Says table "max_force_z" (·.IsNumber l.maxForceZ) (l.maxForceZ = .ofInt 30000)
  maxTorqueXY :
    Says table "max_torque_xy" (·.IsNumber l.maxTorqueXY) (l.maxTorqueXY = .ofInt 3500)
  maxTorqueZ : Says table "max_torque_z" (·.IsNumber l.maxTorqueZ) (l.maxTorqueZ = .ofInt 4500)

theorem ofTable?_eq_some_iff {l : Limits} {table : List (String × Value)} :
    ofTable? table = some l ↔ l.DescribedBy table := by
  have number {key : String} {default x : Binary32} :
      setting? table key Value.binary32? default = some x ↔
        Says table key (·.IsNumber x) (x = default) :=
    setting?_eq_some_iff fun _ _ => Value.binary32?_eq_some_iff
  constructor
  · intro h
    obtain ⟨maxForceXY, forceXY, h⟩ := Option.bind_eq_some_iff.1 h
    obtain ⟨maxForceZ, forceZ, h⟩ := Option.bind_eq_some_iff.1 h
    obtain ⟨maxTorqueXY, torqueXY, h⟩ := Option.bind_eq_some_iff.1 h
    obtain ⟨maxTorqueZ, torqueZ, h⟩ := Option.bind_eq_some_iff.1 h
    cases h
    exact ⟨number.1 forceXY, number.1 forceZ, number.1 torqueXY, number.1 torqueZ⟩
  · rintro ⟨forceXY, forceZ, torqueXY, torqueZ⟩
    refine Option.bind_eq_some_iff.2 ⟨_, number.2 forceXY, ?_⟩
    refine Option.bind_eq_some_iff.2 ⟨_, number.2 forceZ, ?_⟩
    refine Option.bind_eq_some_iff.2 ⟨_, number.2 torqueXY, ?_⟩
    exact Option.bind_eq_some_iff.2 ⟨_, number.2 torqueZ, rfl⟩

end Limits

namespace SensorConfig

structure DescribedBy (c : SensorConfig) (table : List (String × Value)) : Prop where
  settleTimeMs : Says table "settle_time_ms" (·.IsDuration c.settleTimeMs) (c.settleTimeMs = 310)
  tcpReadTimeoutMs : Says table "tcp_read_timeout_ms"
    (fun v => ∃ ms, c.tcpReadTimeoutMs = some ms ∧ v.IsDuration ms) (c.tcpReadTimeoutMs = none)
  limits : Says table "limits" (fun v => ∃ limits, v = .table limits ∧ c.limits.DescribedBy limits)
    (c.limits = Limits.default)

/-- The limits, if there are any, are a table. -/
def Tabular (table : List (String × Value)) : Prop :=
  ∀ v, lookup "limits" table = some v → ∃ limits, v = .table limits

theorem ofTable?_eq_some_iff {c : SensorConfig} {table : List (String × Value)}
    (wellFormed : (Value.table table).WellFormed) (tabular : Tabular table) :
    ofTable? table = some c ↔ c.DescribedBy table := by
  have settle {ms : UInt64} :
      setting? table "settle_time_ms" readMilliseconds? 310 = some ms ↔ _ :=
    setting?_eq_some_iff fun _ found => readMilliseconds?_eq_some_iff (wellFormed.of_lookup found)
  have timeout {ms : Option UInt64} :
      setting? table "tcp_read_timeout_ms" (fun v => (readMilliseconds? v).map some) none =
        some ms ↔ _ :=
    setting?_eq_some_iff fun _ found =>
      map_readMilliseconds?_eq_some_iff (wellFormed.of_lookup found)
  have limits {l : Limits} : setting? table "limits" Limits.ofValue? Limits.default = some l ↔ _ :=
    setting?_eq_some_iff (P := fun v => ∃ limits, v = .table limits ∧ l.DescribedBy limits)
      fun v found => by
        obtain ⟨limits, rfl⟩ := tabular v found
        rw [Limits.ofValue?, Value.settings?, Option.bind_some, Limits.ofTable?_eq_some_iff]
        simp
  constructor
  · intro h
    obtain ⟨settleTimeMs, settleRead, h⟩ := Option.bind_eq_some_iff.1 h
    obtain ⟨tcpReadTimeoutMs, timeoutRead, h⟩ := Option.bind_eq_some_iff.1 h
    obtain ⟨l, limitsRead, h⟩ := Option.bind_eq_some_iff.1 h
    cases h
    exact ⟨settle.1 settleRead, timeout.1 timeoutRead, limits.1 limitsRead⟩
  · rintro ⟨settleSaid, timeoutSaid, limitsSaid⟩
    refine Option.bind_eq_some_iff.2 ⟨_, settle.2 settleSaid, ?_⟩
    refine Option.bind_eq_some_iff.2 ⟨_, timeout.2 timeoutSaid, ?_⟩
    exact Option.bind_eq_some_iff.2 ⟨_, limits.2 limitsSaid, rfl⟩

end SensorConfig

namespace BoardConfig

structure DescribedBy (b : BoardConfig) (table : List (String × Value)) : Prop where
  address : lookup "address" table = some (.string b.address)
  tcpService : Says table "tcp_service" (· = .boolean b.tcpService) (b.tcpService = true)
  tcpPort : Says table "tcp_port" (· = .integer b.tcpPort.toNat) (b.tcpPort = 64321)
  udpService : Says table "udp_service" (· = .boolean b.udpService) (b.udpService = true)
  udpPort : Says table "udp_port" (· = .integer b.udpPort.toNat) (b.udpPort = 64321)

theorem ofTable?_eq_some_iff {b : BoardConfig} {table : List (String × Value)} :
    ofTable? table = some b ↔ b.DescribedBy table := by
  have service {key : String} {on : Bool} :
      setting? table key Value.boolean? true = some on ↔ _ :=
    setting?_eq_some_iff fun _ _ => Value.boolean?_eq_some_iff
  have port {key : String} {n : UInt16} : setting? table key readPort? 64321 = some n ↔ _ :=
    setting?_eq_some_iff fun _ _ => readPort?_eq_some_iff
  constructor
  · intro h
    obtain ⟨address, addressRead, h⟩ := Option.bind_eq_some_iff.1 h
    obtain ⟨tcpService, tcpRead, h⟩ := Option.bind_eq_some_iff.1 h
    obtain ⟨tcpPort, tcpPortRead, h⟩ := Option.bind_eq_some_iff.1 h
    obtain ⟨udpService, udpRead, h⟩ := Option.bind_eq_some_iff.1 h
    obtain ⟨udpPort, udpPortRead, h⟩ := Option.bind_eq_some_iff.1 h
    cases h
    exact ⟨required?_string_eq_some_iff.1 addressRead, service.1 tcpRead, port.1 tcpPortRead,
      service.1 udpRead, port.1 udpPortRead⟩
  · rintro ⟨address, tcpService, tcpPort, udpService, udpPort⟩
    refine Option.bind_eq_some_iff.2 ⟨_, required?_string_eq_some_iff.2 address, ?_⟩
    refine Option.bind_eq_some_iff.2 ⟨_, service.2 tcpService, ?_⟩
    refine Option.bind_eq_some_iff.2 ⟨_, port.2 tcpPort, ?_⟩
    refine Option.bind_eq_some_iff.2 ⟨_, service.2 udpService, ?_⟩
    exact Option.bind_eq_some_iff.2 ⟨_, port.2 udpPort, rfl⟩

/-- Each table describes the board at its place. -/
def Described (rows : List (List (String × Value))) (bs : List BoardConfig) : Prop :=
  List.Forall₂ (fun row b => b.DescribedBy row) rows bs

theorem listOfValue?_tables {rows : List (List (String × Value))} {bs : List BoardConfig} :
    listOfValue? (.array (rows.map .table)) = some bs ↔ Described rows bs := by
  have board (row : List (String × Value)) (b : BoardConfig) :
      ofValue? (.table row) = some b ↔ b.DescribedBy row := ofTable?_eq_some_iff
  rw [listOfValue?, mapM_eq_some_iff, List.forall₂_map_left_iff, Described]
  simp only [board]

end BoardConfig

namespace ManagerConfig

structure DescribedBy (c : ManagerConfig) (table : List (String × Value)) : Prop where
  localAddress : lookup "local_address" table = some (.string c.localAddress)
  port : Says table "port" (· = .integer c.port.toNat) (c.port = 64321)
  timeoutMs : Says table "timeout_ms" (·.IsDuration c.timeoutMs) (c.timeoutMs = 50)
  boards : Says table "boards"
    (fun v => ∃ rows, v = .array (rows.map .table) ∧ BoardConfig.Described rows c.boards)
    (c.boards = [])
  sensor : Says table "sensor" (fun v => ∃ sensor, v = .table sensor ∧ c.sensor.DescribedBy sensor)
    (c.sensor = {})

/-- The sensor, its limits and the boards, where there are any, are tables. -/
structure Tabular (table : List (String × Value)) : Prop where
  boards : ∀ elements, lookup "boards" table = some (.array elements) →
    ∀ v ∈ elements, ∃ row, v = .table row
  sensor : ∀ v, lookup "sensor" table = some v →
    ∃ sensor, v = .table sensor ∧ SensorConfig.Tabular sensor

theorem exists_rows {elements : List Value} (h : ∀ v ∈ elements, ∃ row, v = .table row) :
    ∃ rows : List (List (String × Value)), elements = rows.map .table := by
  induction elements with
  | nil => exact ⟨[], rfl⟩
  | cons v elements ih =>
    obtain ⟨row, rfl⟩ := h v List.mem_cons_self
    obtain ⟨rows, rfl⟩ := ih fun w mem => h w (List.mem_cons_of_mem _ mem)
    exact ⟨row :: rows, rfl⟩

theorem boards_eq_some_iff {table : List (String × Value)} (tabular : Tabular table) {v : Value}
    (found : lookup "boards" table = some v) {bs : List BoardConfig} :
    BoardConfig.listOfValue? v = some bs ↔
      ∃ rows, v = .array (rows.map .table) ∧ BoardConfig.Described rows bs := by
  constructor
  · intro h
    cases v with
    | array elements =>
      obtain ⟨rows, rfl⟩ := exists_rows (tabular.boards elements found)
      exact ⟨rows, rfl, BoardConfig.listOfValue?_tables.1 h⟩
    | _ => cases h
  · rintro ⟨rows, rfl, described⟩
    exact BoardConfig.listOfValue?_tables.2 described

theorem ofTable?_eq_some_iff {c : ManagerConfig} {table : List (String × Value)}
    (wellFormed : (Value.table table).WellFormed) (tabular : Tabular table) :
    ofTable? table = some c ↔ c.DescribedBy table := by
  have port {n : UInt16} : setting? table "port" readPort? 64321 = some n ↔ _ :=
    setting?_eq_some_iff fun _ _ => readPort?_eq_some_iff
  have timeout {ms : UInt64} : setting? table "timeout_ms" readMilliseconds? 50 = some ms ↔ _ :=
    setting?_eq_some_iff fun _ found => readMilliseconds?_eq_some_iff (wellFormed.of_lookup found)
  have boards {bs : List BoardConfig} :
      setting? table "boards" BoardConfig.listOfValue? [] = some bs ↔ _ :=
    setting?_eq_some_iff fun _ found => boards_eq_some_iff tabular found
  have sensor {s : SensorConfig} : setting? table "sensor" SensorConfig.ofValue? {} = some s ↔ _ :=
    setting?_eq_some_iff (P := fun v => ∃ sensor, v = .table sensor ∧ s.DescribedBy sensor)
      fun v found => by
        obtain ⟨sensor, rfl, inner⟩ := tabular.sensor v found
        rw [SensorConfig.ofValue?, Value.settings?, Option.bind_some,
          SensorConfig.ofTable?_eq_some_iff (wellFormed.of_lookup found) inner]
        simp
  constructor
  · intro h
    obtain ⟨localAddress, addressRead, h⟩ := Option.bind_eq_some_iff.1 h
    obtain ⟨n, portRead, h⟩ := Option.bind_eq_some_iff.1 h
    obtain ⟨timeoutMs, timeoutRead, h⟩ := Option.bind_eq_some_iff.1 h
    obtain ⟨bs, boardsRead, h⟩ := Option.bind_eq_some_iff.1 h
    obtain ⟨s, sensorRead, h⟩ := Option.bind_eq_some_iff.1 h
    cases h
    exact ⟨required?_string_eq_some_iff.1 addressRead, port.1 portRead, timeout.1 timeoutRead,
      boards.1 boardsRead, sensor.1 sensorRead⟩
  · rintro ⟨addressSaid, portSaid, timeoutSaid, boardsSaid, sensorSaid⟩
    refine Option.bind_eq_some_iff.2 ⟨_, required?_string_eq_some_iff.2 addressSaid, ?_⟩
    refine Option.bind_eq_some_iff.2 ⟨_, port.2 portSaid, ?_⟩
    refine Option.bind_eq_some_iff.2 ⟨_, timeout.2 timeoutSaid, ?_⟩
    refine Option.bind_eq_some_iff.2 ⟨_, boards.2 boardsSaid, ?_⟩
    exact Option.bind_eq_some_iff.2 ⟨_, sensor.2 sensorSaid, rfl⟩

end ManagerConfig

/-! ## Kinds and ranges -/

/-- A board's address is a text and its ports are in range. -/
structure BoardConfig.Typed (table : List (String × Value)) : Prop where
  address : ∃ text, lookup "address" table = some (.string text)
  ports : ∀ key ∈ ["tcp_port", "udp_port"], ∀ v, lookup key table = some v →
    v.IsIntegerBelow 65536

namespace ManagerConfig

/-- Addresses are texts, and ports and durations are in range. -/
structure Typed (table : List (String × Value)) : Prop where
  localAddress : ∃ text, lookup "local_address" table = some (.string text)
  port : ∀ v, lookup "port" table = some v → v.IsIntegerBelow 65536
  timeoutMs : ∀ v, lookup "timeout_ms" table = some v → v.IsIntegerBelow 9223372036854775808
  boards : ∀ elements row, lookup "boards" table = some (.array elements) →
    .table row ∈ elements → BoardConfig.Typed row
  durations : ∀ sensor, lookup "sensor" table = some (.table sensor) →
    ∀ key ∈ ["settle_time_ms", "tcp_read_timeout_ms"], ∀ v, lookup key sensor = some v →
      v.IsIntegerBelow 9223372036854775808

end ManagerConfig

theorem Toml.Says.of_lookup {table : List (String × Value)} {key : String} {P : Value → Prop}
    {absent : Prop} (h : Says table key P absent) {v : Value} (found : lookup key table = some v) :
    P v := by
  rw [Says, found] at h
  exact h

theorem BoardConfig.DescribedBy.typed {b : BoardConfig} {table : List (String × Value)}
    (h : b.DescribedBy table) : Typed table := by
  refine ⟨⟨_, h.address⟩, ?_⟩
  intro key mem v found
  simp only [List.mem_cons, List.not_mem_nil, or_false] at mem
  obtain rfl | rfl := mem
  · exact isIntegerBelow_of_port (h.tcpPort.of_lookup found)
  · exact isIntegerBelow_of_port (h.udpPort.of_lookup found)

theorem BoardConfig.Described.typed {rows : List (List (String × Value))}
    {bs : List BoardConfig} (h : Described rows bs) {row : List (String × Value)}
    (mem : row ∈ rows) : Typed row := by
  have both := h.imp fun _ _ described => And.intro described.typed described
  exact ((List.forall₂_and_left rows bs).1 both).1 row mem

namespace ManagerConfig

theorem DescribedBy.typed {c : ManagerConfig} {table : List (String × Value)}
    (h : c.DescribedBy table) : Typed table where
  localAddress := ⟨_, h.localAddress⟩
  port _ found := isIntegerBelow_of_port (h.port.of_lookup found)
  timeoutMs _ found := (h.timeoutMs.of_lookup found).isIntegerBelow
  boards elements row found mem := by
    obtain ⟨rows, same, described⟩ := h.boards.of_lookup found
    cases same
    obtain ⟨row', mem', same⟩ := List.mem_map.1 mem
    cases same
    exact described.typed mem'
  durations sensor found key mem v said := by
    obtain ⟨_, same, described⟩ := h.sensor.of_lookup found
    cases same
    simp only [List.mem_cons, List.not_mem_nil, or_false] at mem
    obtain rfl | rfl := mem
    · exact (described.settleTimeMs.of_lookup said).isIntegerBelow
    · obtain ⟨ms, -, duration⟩ := described.tcpReadTimeoutMs.of_lookup said
      exact duration.isIntegerBelow

/-- What a root table configures, once it is read and validated. -/
def ofDocument (table : List (String × Value)) : Except ConfigFault ManagerConfig :=
  match ofTable? table with
  | none => .error .malformed
  | some c => c.validate.map fun _ => c

theorem parse_eq {text : String} {table : List (String × Value)} (h : parse? text = some table) :
    parse text = ofDocument table := by
  rw [parse, h]
  rfl

variable {c : ManagerConfig} {table : List (String × Value)}

theorem ofDocument_of_some (h : ofTable? table = some c) :
    ofDocument table = c.validate.map fun _ => c := by
  rw [ofDocument, h]

theorem ofDocument_eq_ok_iff :
    ofDocument table = .ok c ↔ ofTable? table = some c ∧ c.validate = .ok () := by
  constructor
  · intro h
    cases read : ofTable? table with
    | none =>
      rw [ofDocument, read] at h
      cases h
    | some d =>
      rw [ofDocument_of_some read] at h
      cases valid : d.validate with
      | error e =>
        rw [valid] at h
        cases h
      | ok =>
        rw [valid] at h
        cases h
        exact ⟨rfl, valid⟩
  · rintro ⟨read, valid⟩
    rw [ofDocument_of_some read, valid]
    rfl

theorem validate_of_parse {text : String} (h : parse text = .ok c) : c.validate = .ok () := by
  cases read : parse? text with
  | none =>
    rw [parse, read] at h
    cases h
  | some table =>
    rw [parse_eq read] at h
    exact (ofDocument_eq_ok_iff.1 h).2

theorem ofDocument_of_not_described (wellFormed : (Value.table table).WellFormed)
    (tabular : Tabular table) (h : ∀ c : ManagerConfig, ¬c.DescribedBy table) :
    ofDocument table = .error .malformed := by
  have unread : ofTable? table = none := by
    rw [Option.eq_none_iff_forall_ne_some]
    exact fun c read => h c ((ofTable?_eq_some_iff wellFormed tabular).1 read)
  rw [ofDocument, unread]

/-- What a text configures is decided by the table that it is a document of.  A table can be
edited and stays the same document: its keys in another order, keys that name no setting put in
or taken out, defaults written out or left to be filled in, in any of its parts.  If the parts
are tables, what is read are exactly the values that it gives, and defaults for the others, which
are then validated.  If a value is missing or not of its kind or out of its range, the
document is malformed. -/
theorem known_keys_decide_configuration :
    (∀ text table, parse? text = some table →
      (Value.table table).WellFormed ∧ parse text = ofDocument table) ∧
    (∀ table table', Relation.EqvGen (Edit .manager) (.table table) (.table table') →
      ofDocument table' = ofDocument table) ∧
    ∀ table, (Value.table table).WellFormed → Tabular table →
      (∀ c : ManagerConfig, ofDocument table = .ok c ↔
        c.DescribedBy table ∧ c.validate = .ok ()) ∧
      (∀ c : ManagerConfig, c.DescribedBy table → ∀ e, c.validate = .error e →
        ofDocument table = .error e) ∧
      ((∀ c : ManagerConfig, ¬c.DescribedBy table) → ofDocument table = .error .malformed) ∧
      (¬Typed table → ofDocument table = .error .malformed) := by
  refine ⟨?_, ?_, ?_⟩
  · intro text table h
    exact ⟨wellFormed_of_parse? h, parse_eq h⟩
  · intro table table' edits
    rw [ofDocument, ofDocument, ofTable?_of_edits edits]
  · intro table wellFormed tabular
    have described {c : ManagerConfig} := ofTable?_eq_some_iff (c := c) wellFormed tabular
    refine ⟨?_, ?_, ofDocument_of_not_described wellFormed tabular, ?_⟩
    · intro c
      rw [ofDocument_eq_ok_iff, described]
    · intro c h e invalid
      rw [ofDocument_of_some (described.2 h), invalid]
      rfl
    · intro untyped
      exact ofDocument_of_not_described wellFormed tabular fun c h => untyped h.typed

/-- A sensor that is given in part keeps the defaults of the rest. -/
example : ofDocument [("sensor", .table [("limits", .table [("max_force_z", .integer 1)])]),
    ("colour", .boolean true), ("local_address", .string "10.0.0.1")] =
      .ok { localAddress := "10.0.0.1",
            sensor := { limits := { Limits.default with maxForceZ := .ofInt 1 } } } := by
  rfl

end ManagerConfig

end WrenchLink

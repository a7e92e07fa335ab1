/-
Configurations written and read back.

Milliseconds that no document can hold are refused and nothing is written.  Every other
configuration, valid or not, is written as a text that describes it completely: reading the
text validates the very configuration that was written, limits that are not numbers aside.
-/
import WrenchLink.Config.Reading
import WrenchLink.Config.Writing
import WrenchLink.Proofs.Toml.Table

namespace WrenchLink

open Toml

attribute [local instance (high)] instPowNat

/-! ## Numbers read back -/

theorem readPort?_toNat (port : UInt16) : readPort? (.integer port.toNat) = some port := by
  have bound : (port.toNat : Int) < UInt16.size := Int.ofNat_lt.2 port.toNat_lt
  rw [readPort?, Value.natBelow?, if_pos ⟨Int.natCast_nonneg _, bound⟩]
  simp

theorem readMilliseconds?_toNat (ms : UInt64) :
    readMilliseconds? (.integer ms.toNat) = some ms := by
  have bound : (ms.toNat : Int) < UInt64.size := Int.ofNat_lt.2 ms.toNat_lt
  rw [readMilliseconds?, Value.natBelow?, if_pos ⟨Int.natCast_nonneg _, bound⟩]
  simp

/-- The number that comes back: the same, but for patterns that are not numbers. -/
def Binary32.reread (x : Binary32) : Binary32 := (Toml.reread x.toBinary64).toBinary32

theorem Binary32.isNaN_reread {x : Binary32} (h : x.isNaN) : x.reread.isNaN := by
  have range : double.notANumber < double.signBit := by decide
  apply Binary64.isNaN_toBinary32
  rw [Toml.reread, isNaN_toBinary64, if_pos h, Binary64.isNaN,
    Binary64.magnitude_ofMagnitude false range]
  decide

theorem Binary32.reread_of_not_isNaN {x : Binary32} (h : x.isNaN = false) : x.reread = x := by
  rw [reread, Toml.reread, isNaN_toBinary64, h, if_neg Bool.false_ne_true, toBinary32_toBinary64 h]

/-! ## The parts of a configuration -/

namespace Limits

def reread (l : Limits) : Limits :=
  ⟨l.maxForceXY.reread, l.maxForceZ.reread, l.maxTorqueXY.reread, l.maxTorqueZ.reread⟩

theorem ofTable?_settings (l : Limits) : ofTable? (settingValues l.toSettings) = some l.reread := by
  simp [ofTable?, settingValues, toSettings, setting?, lookup, Literal.value, Value.binary32?,
    reread, Binary32.reread]

theorem keys_toSettings (l : Limits) : l.toSettings.map Prod.fst = keys := rfl

theorem nodup_keys (l : Limits) : (l.toSettings.map Prod.fst).Nodup := by
  rw [keys_toSettings]
  decide

theorem readable_settings (l : Limits) : ∀ s ∈ l.toSettings, Readable s := by
  apply Readable.of_mem
  · rw [keys_toSettings]
    decide
  · simp [toSettings, Literal.InRange]

end Limits

namespace BoardConfig

/-- A board as a document describes it. -/
def toValue (b : BoardConfig) : Value := .table (settingValues b.toSettings)

theorem ofValue?_toValue (b : BoardConfig) : ofValue? b.toValue = some b := by
  rw [ofValue?, toValue, Value.settings?, Option.bind_some]
  simp [ofTable?, settingValues, toSettings, setting?, required?, lookup, Literal.value,
    Value.string?, Value.boolean?, readPort?_toNat]

theorem keys_toSettings (b : BoardConfig) : b.toSettings.map Prod.fst = keys := rfl

theorem nodup_keys (b : BoardConfig) : (b.toSettings.map Prod.fst).Nodup := by
  rw [keys_toSettings]
  decide

theorem readable_settings (b : BoardConfig) : ∀ s ∈ b.toSettings, Readable s := by
  apply Readable.of_mem
  · rw [keys_toSettings]
    decide
  · have tcp := b.tcpPort.toNat_lt
    have udp := b.udpPort.toNat_lt
    simp [toSettings, Literal.InRange]
    omega

theorem listOfValue?_toValues (boards : List BoardConfig) :
    listOfValue? (.array (boards.map toValue)) = some boards := by
  rw [listOfValue?]
  induction boards with
  | nil => rfl
  | cons b boards ih =>
    rw [List.map_cons, List.mapM_cons, ofValue?_toValue, ih]
    rfl

end BoardConfig

namespace SensorConfig

/-- A sensor as a document describes it. -/
def toValue (c : SensorConfig) : Value :=
  .table (settingValues c.toSettings ++ [("limits", .table (settingValues c.limits.toSettings))])

theorem ofValue?_toValue (c : SensorConfig) :
    ofValue? c.toValue = some { c with limits := c.limits.reread } := by
  have limits : Limits.ofValue? (.table (settingValues c.limits.toSettings)) =
      some c.limits.reread := by
    rw [Limits.ofValue?, Value.settings?, Option.bind_some, Limits.ofTable?_settings]
  rw [ofValue?, toValue, Value.settings?, Option.bind_some]
  generalize Value.table (settingValues c.limits.toSettings) = v at limits
  cases timeout : c.tcpReadTimeoutMs <;>
    simp [ofTable?, settingValues, toSettings, setting?, lookup, Literal.value,
      readMilliseconds?_toNat, timeout, limits]

theorem readable_settings {c : SensorConfig} (settle : c.settleTimeMs.toNat < 9223372036854775808)
    (timeout : ∀ ms ∈ c.tcpReadTimeoutMs, ms.toNat < 9223372036854775808) :
    ∀ s ∈ c.toSettings, Readable s := by
  apply Readable.of_mem
  · cases h : c.tcpReadTimeoutMs <;> simp [toSettings, h] <;> decide
  · cases h : c.tcpReadTimeoutMs with
    | none => simpa [toSettings, h, Literal.InRange] using settle
    | some ms => simpa [toSettings, h, Literal.InRange] using ⟨settle, timeout ms h⟩

theorem nodup_keys (c : SensorConfig) : (c.toSettings.map Prod.fst).Nodup := by
  cases h : c.tcpReadTimeoutMs <;> simp [toSettings, h]

theorem not_mem_keys (c : SensorConfig) : "limits" ∉ c.toSettings.map Prod.fst := by
  cases h : c.tcpReadTimeoutMs <;> simp [toSettings, h]

/-- The sections of a sensor add one entry, with the limits inside. -/
theorem build_sections (c : SensorConfig) {xs : Entries} (fresh : "sensor" ∉ xs.map Prod.fst)
    (current : List String) :
    build (c.toSections.flatMap Section.statements) current xs =
      some (xs ++ [("sensor", .table .defined (c.toSettings.map settingEntry ++
        [("limits", .table .defined (c.limits.toSettings.map settingEntry))]))]) := by
  have limits : "limits" ∉ (c.toSettings.map settingEntry).map Prod.fst := by
    rw [keys_settingEntries]
    exact c.not_mem_keys
  have outer := build_table Opens.root fresh (Opens.root.table fresh) c.nodup_keys
    ((⟨.table ["sensor", "limits"], c.limits.toSettings⟩ : Section).statements ++ []) current
  have inner := build_table (Opens.root.table fresh) limits
    (Opens.table (Opens.root.table limits) fresh) c.limits.nodup_keys [] ["sensor"]
  exact outer.trans inner

theorem entriesToValues_sensor (c : SensorConfig) :
    entriesToValues [("sensor", .table .defined (c.toSettings.map settingEntry ++
      [("limits", .table .defined (c.limits.toSettings.map settingEntry))]))] =
      [("sensor", c.toValue)] := by
  simp [entriesToValues, Item.toValue, entriesToValues_append, entriesToValues_settings, toValue]

end SensorConfig

/-! ## The whole configuration -/

namespace ManagerConfig

/-- A document can hold each of the durations. -/
def Writable (c : ManagerConfig) : Prop := ∀ ms ∈ c.durations, ms.toNat < 9223372036854775808

/-- The table that describes a configuration. -/
def toTable (c : ManagerConfig) : List (String × Value) :=
  [("local_address", .string c.localAddress), ("port", .integer c.port.toNat),
   ("timeout_ms", .integer c.timeoutMs.toNat),
   ("boards", .array (c.boards.map BoardConfig.toValue)), ("sensor", c.sensor.toValue)]

theorem nodup_keys (c : ManagerConfig) : (c.toSettings.map Prod.fst).Nodup := by
  cases h : c.boards <;> simp [toSettings, h]

theorem readable_settings {c : ManagerConfig} (h : c.timeoutMs.toNat < 9223372036854775808) :
    ∀ s ∈ c.toSettings, Readable s := by
  have port := c.port.toNat_lt
  apply Readable.of_mem
  · cases boards : c.boards <;> simp [toSettings, boards] <;> decide
  · cases boards : c.boards <;> simp [toSettings, boards, Literal.InRange, h] <;> omega

theorem readable_sections {c : ManagerConfig} (h : c.Writable) :
    ∀ s ∈ c.boards.map (fun b => (⟨.element ["boards"], b.toSettings⟩ : Section)) ++
      c.sensor.toSections, s.Readable := by
  have settle : c.sensor.settleTimeMs.toNat < 9223372036854775808 :=
    h _ (List.mem_cons_of_mem _ List.mem_cons_self)
  have timeout : ∀ ms ∈ c.sensor.tcpReadTimeoutMs, ms.toNat < 9223372036854775808 := fun ms mem =>
    h ms (by simp [durations, Option.mem_def.1 mem])
  have boardsHeading : (Heading.element ["boards"]).Readable := ⟨by decide, by decide, by decide⟩
  have sensorHeading : (Heading.table ["sensor"]).Readable := ⟨by decide, by decide, by decide⟩
  have limitsHeading : (Heading.table ["sensor", "limits"]).Readable :=
    ⟨by decide, by decide, by decide⟩
  intro s mem
  rw [List.mem_append, List.mem_map] at mem
  obtain ⟨b, -, rfl⟩ | mem := mem
  · exact ⟨boardsHeading, b.readable_settings⟩
  · simp only [SensorConfig.toSections, List.mem_cons, List.not_mem_nil, or_false] at mem
    obtain rfl | rfl := mem
    · exact ⟨sensorHeading, SensorConfig.readable_settings settle timeout⟩
    · exact ⟨limitsHeading, c.sensor.limits.readable_settings⟩

theorem build_boards (boards : List BoardConfig) (c : SensorConfig) {xs : Entries}
    (fresh : "boards" ∉ xs.map Prod.fst) :
    build ((boards.map fun b => (⟨.element ["boards"], b.toSettings⟩ : Section)).flatMap
        Section.statements ++ c.toSections.flatMap Section.statements) [] xs =
      build (c.toSections.flatMap Section.statements) []
        (xs ++ arrayEntry "boards" ((boards.map BoardConfig.toSettings).map
          (·.map settingEntry))) := by
  obtain ⟨rest, shape⟩ : ∃ rest, c.toSections.flatMap Section.statements =
    .heading ⟨[], "sensor"⟩ :: rest := ⟨_, rfl⟩
  have distinct : ∀ settings ∈ boards.map BoardConfig.toSettings,
      (settings.map Prod.fst).Nodup := by
    intro settings mem
    obtain ⟨b, -, rfl⟩ := List.mem_map.1 mem
    exact b.nodup_keys
  have elements := build_elements fresh distinct [] ⟨[], "sensor"⟩ rest []
  rw [List.map_map, arrayEntry, List.append_nil, List.nil_append] at elements
  rw [shape]
  exact elements

/-- The entries that the lines of a written configuration build. -/
theorem build_statements (c : ManagerConfig) :
    (build (c.toSettings.map settingStatement ++
      (c.boards.map (fun b => (⟨.element ["boards"], b.toSettings⟩ : Section)) ++
        c.sensor.toSections).flatMap Section.statements) [] []).map entriesToValues =
      some c.toTable := by
  have distinct : ((([] : Entries).map Prod.fst) ++ c.toSettings.map Prod.fst).Nodup := c.nodup_keys
  have sensor : "sensor" ∉ (c.toSettings.map settingEntry).map Prod.fst := by
    rw [keys_settingEntries]
    cases h : c.boards <;> simp [toSettings, h]
  have top := build_settings Opens.root distinct
  simp only [id, List.nil_append] at top
  rw [List.flatMap_append, top]
  cases boards : c.boards with
  | nil =>
    rw [List.map_nil, List.flatMap_nil, List.nil_append, c.sensor.build_sections sensor,
      Option.map_some, entriesToValues_append, SensorConfig.entriesToValues_sensor,
      entriesToValues_settings]
    simp [settingValues, toSettings, boards, toTable, Literal.value]
  | cons b bs =>
    have fresh : "boards" ∉ (c.toSettings.map settingEntry).map Prod.fst := by
      rw [keys_settingEntries]
      simp [toSettings, boards]
    have array : entriesToValues (arrayEntry "boards" (((b :: bs).map BoardConfig.toSettings).map
        (·.map settingEntry))) = [("boards", .array ((b :: bs).map BoardConfig.toValue))] := by
      rw [List.map_cons, entriesToValues_arrayEntry, ← List.map_cons, List.map_map]
      rfl
    rw [build_boards (b :: bs) c.sensor fresh, c.sensor.build_sections, Option.map_some,
      entriesToValues_append, entriesToValues_append, SensorConfig.entriesToValues_sensor,
      entriesToValues_settings, array]
    · simp [settingValues, toSettings, boards, toTable, Literal.value]
    · rw [List.map_append, List.mem_append, not_or]
      exact ⟨sensor, by simp [arrayEntry]⟩

theorem parse?_toText {c : ManagerConfig} (h : c.Writable) : parse? c.toText = some c.toTable := by
  have timeout : c.timeoutMs.toNat < 9223372036854775808 := h _ List.mem_cons_self
  have nonempty : c.toSettings ≠ [] := List.cons_ne_nil _ _
  rw [toText, parse?_render nonempty (readable_settings timeout) (readable_sections h),
    build_statements]

/-- The configuration that comes back: the same, but for limits that are not numbers. -/
def reread (c : ManagerConfig) : ManagerConfig := { c with sensor.limits := c.sensor.limits.reread }

theorem ofTable?_toTable (c : ManagerConfig) : ofTable? c.toTable = some c.reread := by
  have boards := BoardConfig.listOfValue?_toValues c.boards
  have sensor := c.sensor.ofValue?_toValue
  simp [ofTable?, toTable, required?, setting?, lookup, Value.string?, readPort?_toNat,
    readMilliseconds?_toNat, boards, sensor, reread]

/-! ## The round trip -/

end ManagerConfig

/-- The second pattern is the first again, but any that is not a number may stand for any
other. -/
def Binary32.Recovered (x y : Binary32) : Prop := if x.isNaN then y.isNaN = true else y = x

theorem Binary32.recovered_reread (x : Binary32) : x.Recovered x.reread := by
  cases h : x.isNaN with
  | true =>
    rw [Recovered, if_pos h]
    exact isNaN_reread h
  | false =>
    rw [Recovered, h, if_neg Bool.false_ne_true]
    exact reread_of_not_isNaN h

structure Limits.Recovered (l k : Limits) : Prop where
  maxForceXY : l.maxForceXY.Recovered k.maxForceXY
  maxForceZ : l.maxForceZ.Recovered k.maxForceZ
  maxTorqueXY : l.maxTorqueXY.Recovered k.maxTorqueXY
  maxTorqueZ : l.maxTorqueZ.Recovered k.maxTorqueZ

namespace ManagerConfig

/-- The second configuration is the first again, boards in their order and an absent bound on
replies included, up to which pattern stands for a limit that is not a number. -/
structure Recovered (c d : ManagerConfig) : Prop where
  localAddress : d.localAddress = c.localAddress
  port : d.port = c.port
  timeoutMs : d.timeoutMs = c.timeoutMs
  boards : d.boards = c.boards
  settleTimeMs : d.sensor.settleTimeMs = c.sensor.settleTimeMs
  tcpReadTimeoutMs : d.sensor.tcpReadTimeoutMs = c.sensor.tcpReadTimeoutMs
  limits : c.sensor.limits.Recovered d.sensor.limits

theorem recovered_reread (c : ManagerConfig) : c.Recovered c.reread where
  localAddress := rfl
  port := rfl
  timeoutMs := rfl
  boards := rfl
  settleTimeMs := rfl
  tcpReadTimeoutMs := rfl
  limits := ⟨Binary32.recovered_reread _, Binary32.recovered_reread _,
    Binary32.recovered_reread _, Binary32.recovered_reread _⟩

/-- The text of a configuration reads back as it, once the validation of what was written
passes. -/
theorem parse_toText {c : ManagerConfig} (h : c.Writable) :
    parse c.toText = c.validate.map fun _ => c.reread := by
  have validate : c.reread.validate = c.validate := rfl
  rw [parse, parse?_toText h, Option.bind_some, ofTable?_toTable]
  show c.reread.validate.map _ = _
  rw [validate]

theorem write_eq (c : ManagerConfig) :
    c.write = if ∃ ms ∈ c.durations, 9223372036854775808 ≤ ms.toNat then .error .unwritable
      else .ok c.toText := by
  rw [write]
  simp only [List.any_eq_true, decide_eq_true_eq]

theorem parseFile_toUTF8 (text : String) : parseFile (some text.toUTF8) = parse text := by
  have decoded : String.fromUTF8? text.toUTF8 = some text := by
    rw [String.fromUTF8?, dif_pos (show text.toUTF8.IsValidUTF8 from text.isValidUTF8)]
    rfl
  rw [parseFile, Option.bind_some, decoded]

/-- A configuration with milliseconds beyond 63 bits cannot be written, wherever the file is
to be.  Any other is written as a text from which, read as it is or from the file, the same
configuration comes back, or the fault that its validation finds. -/
theorem write_then_read (c : ManagerConfig) :
    if ∃ ms ∈ [c.timeoutMs, c.sensor.settleTimeMs] ++ c.sensor.tcpReadTimeoutMs.toList,
        (2 : Nat) ^ (63 : Nat) - 1 < ms.toNat then
      ∀ directoryExists, c.writeFile directoryExists = .error (.config .unwritable)
    else
      ∃ text, c.writeFile true = .ok text ∧ parseFile (some text.toUTF8) = parse text ∧
        (∀ cause, c.validate = .error cause → parse text = .error cause) ∧
        (c.validate = .ok () → ∃ d, parse text = .ok d ∧ c.Recovered d) := by
  have bound (ms : UInt64) :
      (2 : Nat) ^ (63 : Nat) - 1 < ms.toNat ↔ 9223372036854775808 ≤ ms.toNat := by omega
  split
  next long =>
    simp only [bound] at long
    have write : c.write = .error .unwritable := by
      rw [write_eq]
      exact if_pos long
    intro directoryExists
    rw [writeFile, write]
  next short =>
    simp only [bound] at short
    have write : c.write = .ok c.toText := by
      rw [write_eq]
      exact if_neg short
    have writable : c.Writable := fun ms mem => Nat.lt_of_not_le fun long => short ⟨ms, mem, long⟩
    refine ⟨c.toText, by rw [writeFile, write]; rfl, parseFile_toUTF8 _, ?_, ?_⟩
    · intro cause invalid
      rw [parse_toText writable, invalid]
      rfl
    · intro valid
      refine ⟨c.reread, ?_, c.recovered_reread⟩
      rw [parse_toText writable, valid]
      rfl

end ManagerConfig

end WrenchLink

/-
Edits of a document that do not change what it configures.

A document may be edited in ways that a reader would call the same: keys of a table in another
order, a key that names no setting put in or taken out, a default written out.  `Edit` is one of
these, at whatever depth, and `alike_of_edit` says that what is read from the edited value is
the same.  Each place of a configuration sees a table only through what it has under the keys of
that place, with the defaults filled in, so there is one congruence for all places:
`alike_table`.
-/
import WrenchLink.Config.Reading
import WrenchLink.Proofs.Toml.Parsed
import Mathlib.Logic.Relation

namespace WrenchLink

open Toml

namespace Toml

section Lookup

variable {α : Type} {key k : String} {xs ys : List (String × α)} {a b : α}

theorem lookup_of_mem (distinct : (xs.map Prod.fst).Nodup) (mem : (key, a) ∈ xs) :
    lookup key xs = some a := by
  induction xs with
  | nil => cases mem
  | cons x xs ih =>
    rw [List.map_cons, List.nodup_cons] at distinct
    rw [lookup]
    obtain rfl | mem := List.mem_cons.1 mem
    · exact if_pos rfl
    · have other : x.1 ≠ key := by
        rintro rfl
        exact distinct.1 (List.mem_map.2 ⟨_, mem, rfl⟩)
      rw [if_neg other]
      exact ih distinct.2 mem

theorem lookup_perm (h : xs.Perm ys) (distinct : (xs.map Prod.fst).Nodup) :
    lookup key xs = lookup key ys := by
  have distinct' : (ys.map Prod.fst).Nodup := (h.map Prod.fst).nodup_iff.1 distinct
  ext a
  constructor
  · intro found
    exact lookup_of_mem distinct' (h.subset (mem_of_lookup found))
  · intro found
    exact lookup_of_mem distinct (h.symm.subset (mem_of_lookup found))

theorem lookup_insert_of_ne (other : k ≠ key) (a : α) :
    lookup key (xs ++ (k, a) :: ys) = lookup key (xs ++ ys) := by
  rw [lookup_append, lookup_append, lookup, if_neg other]

theorem lookup_insert_of_not_mem (absent : key ∉ xs.map Prod.fst) (a : α) :
    lookup key (xs ++ (key, a) :: ys) = some a := by
  rw [lookup_append, lookup_of_not_mem absent, Option.none_or, lookup, if_pos rfl]

end Lookup

end Toml

/-- What a value in a document is for. -/
inductive Place where
  | manager
  | boards
  | board
  | sensor
  | limits
  /-- The value of a limit. -/
  | limit
  /-- An address, a port, a duration or a flag, or nothing at all. -/
  | other

namespace Place

/-- The keys that name a setting in a table at that place. -/
def keys : Place → List String
  | manager => ["local_address", "port", "timeout_ms", "boards", "sensor"]
  | board => BoardConfig.keys
  | sensor => SensorConfig.keys
  | limits => Limits.keys
  | boards | limit | other => []

def under : Place → String → Place
  | manager, "boards" => boards
  | manager, "sensor" => sensor
  | sensor, "limits" => limits
  | limits, _ => limit
  | _, _ => other

/-- What the elements of an array are for, where tables may lie in one. -/
def element? : Place → Option Place
  | boards => some board
  | limit | other => some other
  | manager | board | sensor | limits => none

def defaultLimits : Value :=
  .table [("max_force_xy", .float (.ofDecimal false 50000 0)),
    ("max_force_z", .float (.ofDecimal false 30000 0)),
    ("max_torque_xy", .float (.ofDecimal false 3500 0)),
    ("max_torque_z", .float (.ofDecimal false 4500 0))]

/-- The keys that have a default, with the default written out.  One may be written in more ways:
a table that leaves everything to the defaults is itself one, and a limit may be given without a
fraction. -/
def defaults : Place → List (String × Value)
  | manager =>
    [("port", .integer 64321), ("timeout_ms", .integer 50), ("boards", .array []),
      ("sensor", .table []),
      ("sensor", .table [("settle_time_ms", .integer 310), ("limits", defaultLimits)])]
  | board =>
    [("tcp_service", .boolean true), ("tcp_port", .integer 64321), ("udp_service", .boolean true),
      ("udp_port", .integer 64321)]
  | sensor =>
    [("settle_time_ms", .integer 310), ("limits", .table []), ("limits", defaultLimits)]
  | limits =>
    [("max_force_xy", .integer 50000), ("max_force_xy", .float (.ofDecimal false 50000 0)),
      ("max_force_z", .integer 30000), ("max_force_z", .float (.ofDecimal false 30000 0)),
      ("max_torque_xy", .integer 3500), ("max_torque_xy", .float (.ofDecimal false 3500 0)),
      ("max_torque_z", .integer 4500), ("max_torque_z", .float (.ofDecimal false 4500 0))]
  | boards | limit | other => []

end Place

/-- One edit of a value at a place. -/
inductive Edit : Place → Value → Value → Prop where
  /-- The keys of a table in another order. -/
  | reordered {p : Place} {xs ys : List (String × Value)} (order : xs.Perm ys)
    (distinct : (xs.map Prod.fst).Nodup) : Edit p (.table xs) (.table ys)
  /-- A key more that names no setting. -/
  | unknown {p : Place} {xs ys : List (String × Value)} {key : String} (v : Value)
    (unknown : key ∉ p.keys) : Edit p (.table (xs ++ ys)) (.table (xs ++ (key, v) :: ys))
  /-- A default written out. -/
  | default {p : Place} {xs ys : List (String × Value)} {key : String} {v : Value}
    (default : (key, v) ∈ p.defaults) (absent : key ∉ (xs ++ ys).map Prod.fst) :
    Edit p (.table (xs ++ ys)) (.table (xs ++ (key, v) :: ys))
  /-- An edit of the value under a key. -/
  | entry {p : Place} {xs ys : List (String × Value)} {key : String} {v w : Value}
    (edit : Edit (p.under key) v w) :
    Edit p (.table (xs ++ (key, v) :: ys)) (.table (xs ++ (key, w) :: ys))
  /-- An edit of an element of an array. -/
  | element {p q : Place} {xs ys : List Value} {v w : Value} (place : p.element? = some q)
    (edit : Edit q v w) : Edit p (.array (xs ++ v :: ys)) (.array (xs ++ w :: ys))

namespace Place

/-- The same is read from both values at that place. -/
def Alike : Place → Value → Value → Prop
  | manager, v, w => (v.settings? manager.keys).bind ManagerConfig.ofTable? =
      (w.settings? manager.keys).bind ManagerConfig.ofTable?
  | boards, v, w => BoardConfig.listOfValue? v = BoardConfig.listOfValue? w
  | board, v, w => BoardConfig.ofValue? v = BoardConfig.ofValue? w
  | sensor, v, w => SensorConfig.ofValue? v = SensorConfig.ofValue? w
  | limits, v, w => Limits.ofValue? v = Limits.ofValue? w
  | limit, v, w => v.binary32? = w.binary32?
  | other, v, w => v.string? = w.string? ∧ v.boolean? = w.boolean? ∧
      ∀ bound, v.natBelow? bound = w.natBelow? bound

theorem alike_equivalence (p : Place) : Equivalence p.Alike := by
  cases p with
  | other =>
    refine ⟨fun v => ⟨rfl, rfl, fun _ => rfl⟩, ?_, ?_⟩
    · rintro v w ⟨string, boolean, nat⟩
      exact ⟨string.symm, boolean.symm, fun bound => (nat bound).symm⟩
    · rintro u v w ⟨string, boolean, nat⟩ ⟨string', boolean', nat'⟩
      exact ⟨string.trans string', boolean.trans boolean', fun b => (nat b).trans (nat' b)⟩
  | _ => exact ⟨fun _ => rfl, Eq.symm, Eq.trans⟩

/-- What a table has under a key, with the default filled in. -/
def filled (p : Place) (table : List (String × Value)) (key : String) : Option Value :=
  (lookup key table).or (lookup key p.defaults)

/-- Both tables have the same under a key, as far as reading goes. -/
def AgreeAt (p : Place) (xs ys : List (String × Value)) (key : String) : Prop :=
  Option.Rel (p.under key).Alike (p.filled xs key) (p.filled ys key)

variable {p : Place} {xs ys : List (String × Value)} {key : String}

theorem agreeAt_of_lookup (h : lookup key xs = lookup key ys) : p.AgreeAt xs ys key := by
  rw [AgreeAt, filled, h, ← filled]
  cases p.filled ys key with
  | none => exact .none
  | some v => exact .some ((alike_equivalence _).refl v)

/-! ## What is read from a table -/

section Reading

variable {α : Type} {read? : Value → Option α}

theorem elim_congr {R : Value → Value → Prop} {o o' : Option Value} (h : Option.Rel R o o')
    (reads : ∀ v w, R v w → read? v = read? w) (absent : Option α) :
    o.elim absent read? = o'.elim absent read? := by
  cases h with
  | none => rfl
  | some alike => exact reads _ _ alike

/-- Where a default is written out it reads as the default, so it can be filled in. -/
theorem setting?_eq_elim (table : List (String × Value)) {a : α}
    (default : (lookup key p.defaults).elim (some a) read? = some a) :
    setting? table key read? a = (p.filled table key).elim (some a) read? := by
  rw [setting?, filled]
  cases lookup key table with
  | some v => rfl
  | none => exact default.symm

theorem setting?_congr (h : p.AgreeAt xs ys key)
    (reads : ∀ v w, (p.under key).Alike v w → read? v = read? w) {a : α}
    (default : (lookup key p.defaults).elim (some a) read? = some a) :
    setting? xs key read? a = setting? ys key read? a := by
  rw [setting?_eq_elim xs default, setting?_eq_elim ys default]
  exact elim_congr h reads _

theorem required?_congr (h : p.AgreeAt xs ys key)
    (reads : ∀ v w, (p.under key).Alike v w → read? v = read? w)
    (required : lookup key p.defaults = none) :
    required? xs key read? = required? ys key read? := by
  rw [AgreeAt, filled, filled, required, Option.or_none, Option.or_none] at h
  have bind (table : List (String × Value)) : required? table key read? =
      (lookup key table).elim none read? := by
    rw [required?]
    cases lookup key table <;> rfl
  rw [bind, bind]
  exact elim_congr h reads _

end Reading

theorem readPort?_congr (v w : Value) (h : other.Alike v w) : readPort? v = readPort? w := by
  rw [readPort?, readPort?, h.2.2]

theorem readMilliseconds?_congr (v w : Value) (h : other.Alike v w) :
    readMilliseconds? v = readMilliseconds? w := by
  rw [readMilliseconds?, readMilliseconds?, h.2.2]

/-- Each place sees of a table what it has under the keys of that place, with the defaults filled
in. -/
theorem alike_table (h : ∀ key ∈ p.keys, p.AgreeAt xs ys key) :
    p.Alike (.table xs) (.table ys) := by
  cases p with
  | manager =>
    have address : required? xs "local_address" Value.string? = required? ys _ _ :=
      required?_congr (h _ (by decide)) (fun _ _ alike => alike.1) rfl
    have port := setting?_congr (a := defaultPort) (h "port" (by decide)) readPort?_congr rfl
    have timeout := setting?_congr (a := defaultTimeoutMs) (h "timeout_ms" (by decide))
      readMilliseconds?_congr rfl
    have boards := setting?_congr (a := []) (h "boards" (by decide)) (fun _ _ alike => alike) rfl
    have sensor := setting?_congr (a := {}) (h "sensor" (by decide)) (fun _ _ alike => alike) rfl
    simp only [Alike, Value.settings?, Option.bind_some, ManagerConfig.ofTable?, address, port,
      timeout, boards, sensor]
  | board =>
    have address : required? xs "address" Value.string? = required? ys _ _ :=
      required?_congr (h _ (by decide)) (fun _ _ alike => alike.1) rfl
    have tcpService : setting? xs "tcp_service" Value.boolean? true = setting? ys _ _ _ :=
      setting?_congr (h _ (by decide)) (fun _ _ alike => alike.2.1) rfl
    have tcpPort := setting?_congr (a := defaultPort) (h "tcp_port" (by decide))
      readPort?_congr rfl
    have udpService : setting? xs "udp_service" Value.boolean? true = setting? ys _ _ _ :=
      setting?_congr (h _ (by decide)) (fun _ _ alike => alike.2.1) rfl
    have udpPort := setting?_congr (a := defaultPort) (h "udp_port" (by decide))
      readPort?_congr rfl
    simp only [Alike, BoardConfig.ofValue?, Value.settings?, Option.bind_some,
      BoardConfig.ofTable?, address, tcpService, tcpPort, udpService, udpPort]
  | sensor =>
    have settle := setting?_congr (a := defaultSettleTimeMs) (h "settle_time_ms" (by decide))
      readMilliseconds?_congr rfl
    have timeout := setting?_congr (a := none) (h "tcp_read_timeout_ms" (by decide))
      (fun v w alike => congrArg (Option.map some) (readMilliseconds?_congr v w alike)) rfl
    have limits := setting?_congr (a := Limits.default) (h "limits" (by decide))
      (fun _ _ alike => alike) rfl
    simp only [Alike, SensorConfig.ofValue?, Value.settings?, Option.bind_some,
      SensorConfig.ofTable?, settle, timeout, limits]
  | limits =>
    have forceXY := setting?_congr (a := Limits.default.maxForceXY) (h "max_force_xy" (by decide))
      (fun _ _ alike => alike) rfl
    have forceZ := setting?_congr (a := Limits.default.maxForceZ) (h "max_force_z" (by decide))
      (fun _ _ alike => alike) rfl
    have torqueXY := setting?_congr (a := Limits.default.maxTorqueXY)
      (h "max_torque_xy" (by decide)) (fun _ _ alike => alike) rfl
    have torqueZ := setting?_congr (a := Limits.default.maxTorqueZ)
      (h "max_torque_z" (by decide)) (fun _ _ alike => alike) rfl
    simp only [Alike, Limits.ofValue?, Value.settings?, Option.bind_some, Limits.ofTable?,
      forceXY, forceZ, torqueXY, torqueZ]
  | boards => rfl
  | limit => rfl
  | other => exact ⟨rfl, rfl, fun _ => rfl⟩

theorem binary32?_ofDecimal {n : Nat} (h : n ∈ [50000, 30000, 3500, 4500]) :
    Value.binary32? (.integer n) = Value.binary32? (.float (.ofDecimal false n 0)) := by
  decide +kernel +revert

theorem ofValue?_defaultLimits : Limits.ofValue? (.table []) = Limits.ofValue? defaultLimits := by
  decide +kernel

theorem ofValue?_defaultSensor : SensorConfig.ofValue? (.table []) =
    SensorConfig.ofValue?
      (.table [("settle_time_ms", .integer 310), ("limits", defaultLimits)]) := by
  decide +kernel

/-- All ways to write a default are read as the same. -/
theorem exists_alike_default {v : Value} (h : (key, v) ∈ p.defaults) :
    ∃ w, lookup key p.defaults = some w ∧ (p.under key).Alike w v := by
  have same {q : Place} {w : Value} : q.Alike w w := (alike_equivalence q).refl w
  cases p with
  | manager =>
    simp only [defaults, List.mem_cons, Prod.mk.injEq, List.not_mem_nil, or_false] at h
    obtain ⟨rfl, rfl⟩ | ⟨rfl, rfl⟩ | ⟨rfl, rfl⟩ | ⟨rfl, rfl⟩ | ⟨rfl, rfl⟩ := h
    iterate 4 exact ⟨_, rfl, same⟩
    exact ⟨_, rfl, ofValue?_defaultSensor⟩
  | board =>
    simp only [defaults, List.mem_cons, Prod.mk.injEq, List.not_mem_nil, or_false] at h
    obtain ⟨rfl, rfl⟩ | ⟨rfl, rfl⟩ | ⟨rfl, rfl⟩ | ⟨rfl, rfl⟩ := h
    all_goals exact ⟨_, rfl, same⟩
  | sensor =>
    simp only [defaults, List.mem_cons, Prod.mk.injEq, List.not_mem_nil, or_false] at h
    obtain ⟨rfl, rfl⟩ | ⟨rfl, rfl⟩ | ⟨rfl, rfl⟩ := h
    iterate 2 exact ⟨_, rfl, same⟩
    exact ⟨_, rfl, ofValue?_defaultLimits⟩
  | limits =>
    simp only [defaults, List.mem_cons, Prod.mk.injEq, List.not_mem_nil, or_false] at h
    obtain ⟨rfl, rfl⟩ | ⟨rfl, rfl⟩ | ⟨rfl, rfl⟩ | ⟨rfl, rfl⟩ | ⟨rfl, rfl⟩ | ⟨rfl, rfl⟩ |
      ⟨rfl, rfl⟩ | ⟨rfl, rfl⟩ := h
    all_goals first
      | exact ⟨_, rfl, same⟩
      | exact ⟨_, rfl, binary32?_ofDecimal (by decide)⟩
  | boards | limit | other => cases h

/-! ## Edits -/

theorem agreeAt_insert_default {v : Value} (default : (key, v) ∈ p.defaults)
    (absent : key ∉ (xs ++ ys).map Prod.fst) :
    p.AgreeAt (xs ++ ys) (xs ++ (key, v) :: ys) key := by
  obtain ⟨w, found, alike⟩ := exists_alike_default default
  have before : key ∉ xs.map Prod.fst := by
    rw [List.map_append, List.mem_append, not_or] at absent
    exact absent.1
  rw [AgreeAt, filled, filled, lookup_of_not_mem absent, lookup_insert_of_not_mem before, found]
  exact .some alike

theorem agreeAt_entry {k : String} {v w : Value} (alike : (p.under k).Alike v w) (key : String) :
    p.AgreeAt (xs ++ (k, v) :: ys) (xs ++ (k, w) :: ys) key := by
  by_cases same : k = key
  · subst same
    rw [AgreeAt, filled, filled, lookup_append, lookup_append, lookup, lookup, if_pos rfl,
      if_pos rfl]
    -- An earlier entry of the same key hides the one that is edited.
    cases lookup k xs with
    | some u => exact .some ((alike_equivalence _).refl u)
    | none => exact .some alike
  · apply agreeAt_of_lookup
    rw [lookup_insert_of_ne same, lookup_insert_of_ne same]

theorem alike_element {q : Place} (place : p.element? = some q) {v w : Value}
    (alike : q.Alike v w) (us vs : List Value) :
    p.Alike (.array (us ++ v :: vs)) (.array (us ++ w :: vs)) := by
  cases p with
  | boards =>
    cases place
    have element : BoardConfig.ofValue? v = BoardConfig.ofValue? w := alike
    simp only [Alike, BoardConfig.listOfValue?, List.mapM_append, List.mapM_cons, element]
  | limit => rfl
  | other => exact ⟨rfl, rfl, fun _ => rfl⟩
  | manager | board | sensor | limits => cases place

/-- The induction is on the edit, from the place where it is made to the whole. -/
theorem alike_of_edit {v w : Value} (h : Edit p v w) : p.Alike v w := by
  induction h with
  | reordered order distinct =>
    exact alike_table fun key _ => agreeAt_of_lookup (lookup_perm order distinct)
  | unknown v unknown =>
    refine alike_table fun key mem => agreeAt_of_lookup (Eq.symm ?_)
    apply lookup_insert_of_ne
    rintro rfl
    exact unknown mem
  | @default p xs ys key v default absent =>
    refine alike_table fun k mem => ?_
    by_cases same : key = k
    · rw [← same]
      exact agreeAt_insert_default default absent
    · exact agreeAt_of_lookup (lookup_insert_of_ne same v).symm
  | entry _ ih => exact alike_table fun key _ => agreeAt_entry ih key
  | element place _ ih => exact alike_element place ih _ _

theorem alike_of_edits {v w : Value} (h : Relation.EqvGen (Edit p) v w) : p.Alike v w := by
  rw [← (alike_equivalence p).eqvGen_iff]
  exact h.mono fun _ _ => alike_of_edit

end Place

/-- However a document is edited, and back, what it configures is the same. -/
theorem ManagerConfig.ofTable?_of_edits {T T' : List (String × Value)}
    (h : Relation.EqvGen (Edit .manager) (.table T) (.table T')) : ofTable? T' = ofTable? T :=
  (Place.alike_of_edits h).symm

end WrenchLink

/-
Configurations read from documents.

A configuration is a table of settings.  The settings of a part may be named in a table
or listed in an array, in the order of that part's keys.  Only the address of an interface
or board has to be given; whatever else is missing has its default, and keys that name no
setting are passed over.  Numbers must fit what they are for.
-/
import WrenchLink.Config.Basic
import WrenchLink.Toml.Document

namespace WrenchLink

namespace Toml

/-- The settings that a value gives.  A table names them and an array lists them in the
order of `keys`; a date-time gives none. -/
def Value.settings? (keys : List String) : Value → Option (List (String × Value))
  | .table entries => some entries
  | .array elements => some (keys.zip elements)
  | .dateTime => some []
  | _ => none

def Value.string? : Value → Option String
  | .string text => some text
  | _ => none

def Value.boolean? : Value → Option Bool
  | .boolean b => some b
  | _ => none

def Value.natBelow? (bound : Nat) : Value → Option Nat
  | .integer n => if 0 ≤ n ∧ n < bound then some n.toNat else none
  | _ => none

/-- A number in single precision.  An integer is rounded once, a float a second time. -/
def Value.binary32? : Value → Option Binary32
  | .integer n => some (.ofInt n)
  | .float x => some x.toBinary32
  | _ => none

/-- The setting under a key, or its default if there is none. -/
def setting? {α : Type} (table : List (String × Value)) (key : String)
    (read? : Value → Option α) (default : α) : Option α :=
  match lookup key table with
  | none => some default
  | some v => read? v

/-- The setting under a key, which must be there. -/
def required? {α : Type} (table : List (String × Value)) (key : String)
    (read? : Value → Option α) : Option α :=
  (lookup key table).bind read?

end Toml

open Toml

def readPort? (v : Value) : Option UInt16 := (v.natBelow? UInt16.size).map UInt16.ofNat

def readMilliseconds? (v : Value) : Option UInt64 := (v.natBelow? UInt64.size).map UInt64.ofNat

namespace Limits

def keys : List String := ["max_force_xy", "max_force_z", "max_torque_xy", "max_torque_z"]

def ofTable? (table : List (String × Value)) : Option Limits := do
  let maxForceXY ← setting? table "max_force_xy" Value.binary32? default.maxForceXY
  let maxForceZ ← setting? table "max_force_z" Value.binary32? default.maxForceZ
  let maxTorqueXY ← setting? table "max_torque_xy" Value.binary32? default.maxTorqueXY
  let maxTorqueZ ← setting? table "max_torque_z" Value.binary32? default.maxTorqueZ
  return { maxForceXY, maxForceZ, maxTorqueXY, maxTorqueZ }

def ofValue? (v : Value) : Option Limits := (v.settings? keys).bind ofTable?

end Limits

namespace SensorConfig

def keys : List String := ["settle_time_ms", "tcp_read_timeout_ms", "limits"]

def ofTable? (table : List (String × Value)) : Option SensorConfig := do
  let settleTimeMs ← setting? table "settle_time_ms" readMilliseconds? defaultSettleTimeMs
  let tcpReadTimeoutMs ←
    setting? table "tcp_read_timeout_ms" (fun v => (readMilliseconds? v).map some) none
  let limits ← setting? table "limits" Limits.ofValue? Limits.default
  return { settleTimeMs, tcpReadTimeoutMs, limits }

def ofValue? (v : Value) : Option SensorConfig := (v.settings? keys).bind ofTable?

end SensorConfig

namespace BoardConfig

def keys : List String := ["address", "tcp_service", "tcp_port", "udp_service", "udp_port"]

def ofTable? (table : List (String × Value)) : Option BoardConfig := do
  let address ← required? table "address" Value.string?
  let tcpService ← setting? table "tcp_service" Value.boolean? true
  let tcpPort ← setting? table "tcp_port" readPort? defaultPort
  let udpService ← setting? table "udp_service" Value.boolean? true
  let udpPort ← setting? table "udp_port" readPort? defaultPort
  return { address, tcpService, tcpPort, udpService, udpPort }

def ofValue? (v : Value) : Option BoardConfig := (v.settings? keys).bind ofTable?

def listOfValue? : Value → Option (List BoardConfig)
  | .array elements => elements.mapM ofValue?
  | _ => none

end BoardConfig

namespace ManagerConfig

def ofTable? (table : List (String × Value)) : Option ManagerConfig := do
  let localAddress ← required? table "local_address" Value.string?
  let port ← setting? table "port" readPort? defaultPort
  let timeoutMs ← setting? table "timeout_ms" readMilliseconds? defaultTimeoutMs
  let boards ← setting? table "boards" BoardConfig.listOfValue? []
  let sensor ← setting? table "sensor" SensorConfig.ofValue? {}
  return { localAddress, port, timeoutMs, boards, sensor }

def parse (text : String) : Except ConfigFault ManagerConfig :=
  match (parse? text).bind ofTable? with
  | none => .error .malformed
  | some c => c.validate.map fun _ => c

/-- Reads the content of a file, which must be text; there is none if the file is missing. -/
def parseFile (content : Option ByteArray) : Except ConfigFault ManagerConfig :=
  match content.bind String.fromUTF8? with
  | none => .error .unreadable
  | some text => parse text

end ManagerConfig
end WrenchLink

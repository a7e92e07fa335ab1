/-
Configurations written as documents.

Every setting is written, defaults too; only an absent bound on the wait for replies is
left out.  The numbers of a document have a sign, so milliseconds from 2 ^ 63 on cannot be
written.
-/
import WrenchLink.Config.Basic
import WrenchLink.Toml.Section

namespace WrenchLink

open Toml

namespace Limits

def toSettings (l : Limits) : Settings :=
  [("max_force_xy", .float l.maxForceXY.toBinary64),
   ("max_force_z", .float l.maxForceZ.toBinary64),
   ("max_torque_xy", .float l.maxTorqueXY.toBinary64),
   ("max_torque_z", .float l.maxTorqueZ.toBinary64)]

end Limits

namespace SensorConfig

def toSettings (c : SensorConfig) : Settings :=
  ("settle_time_ms", .integer c.settleTimeMs.toNat) ::
    (c.tcpReadTimeoutMs.toList.map fun ms => ("tcp_read_timeout_ms", .integer ms.toNat))

def toSections (c : SensorConfig) : List Section :=
  [⟨.table ["sensor"], c.toSettings⟩, ⟨.table ["sensor", "limits"], c.limits.toSettings⟩]

end SensorConfig

namespace BoardConfig

def toSettings (b : BoardConfig) : Settings :=
  [("address", .string b.address),
   ("tcp_service", .boolean b.tcpService),
   ("tcp_port", .integer b.tcpPort.toNat),
   ("udp_service", .boolean b.udpService),
   ("udp_port", .integer b.udpPort.toNat)]

end BoardConfig

namespace ManagerConfig

def durations (c : ManagerConfig) : List UInt64 :=
  [c.timeoutMs, c.sensor.settleTimeMs] ++ c.sensor.tcpReadTimeoutMs.toList

/-- The settings outside any section.  An array of no boards is one of them. -/
def toSettings (c : ManagerConfig) : Settings :=
  [("local_address", .string c.localAddress),
   ("port", .integer c.port.toNat),
   ("timeout_ms", .integer c.timeoutMs.toNat)] ++
    if c.boards.isEmpty then [("boards", .emptyArray)] else []

def toText (c : ManagerConfig) : String :=
  render c.toSettings
    (c.boards.map (fun b => ⟨.element ["boards"], b.toSettings⟩) ++ c.sensor.toSections)

def write (c : ManagerConfig) : Except ConfigFault String :=
  if c.durations.any fun ms => 9223372036854775808 ≤ ms.toNat then .error .unwritable
  else .ok c.toText

/-- The text that goes into a file, which can only be made in a directory that exists. -/
def writeFile (directoryExists : Bool) (c : ManagerConfig) : Except Fault String :=
  match c.write with
  | .error cause => .error (.config cause)
  | .ok text => if directoryExists then .ok text else .error (.system .fileNotWritten)

end ManagerConfig
end WrenchLink

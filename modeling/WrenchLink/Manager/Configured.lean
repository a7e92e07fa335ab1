/-
Building a manager from a configuration.

Validation is the only way to fail: a valid configuration has addresses that can be read
and no more boards than there is room for.
-/
import WrenchLink.Config.Basic
import WrenchLink.Manager.Basic

namespace WrenchLink

def BoardConfig.spec (c : BoardConfig) : Except ConfigFault BoardSpec := do
  let address ← c.ip
  return ⟨address, c.tcpService, c.tcpPort, c.udpService, c.udpPort⟩

namespace Manager

variable {η : Type}

def addConfigured (m : Manager η) : List BoardConfig → Except Fault (Manager η)
  | [] => .ok m
  | c :: rest => do
    let spec ← c.spec.mapError Fault.config
    let (added, m) := m.addBoard spec
    let _ ← added
    m.addConfigured rest

def ofConfig (c : ManagerConfig) : Except Fault (Manager η) := do
  c.validate.mapError Fault.config
  let address ← c.localIp.mapError Fault.config
  let m := ((Manager.new ⟨address, c.port⟩).withTimeout c.timeoutMs.toNat).withTcpReadTimeout
    (c.sensor.tcpReadTimeoutMs.map UInt64.toNat)
  m.addConfigured c.boards

end Manager
end WrenchLink

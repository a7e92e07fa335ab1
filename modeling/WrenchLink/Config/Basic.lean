/-
The configuration of an interface, its boards and its sensors, and when it is valid.

A configuration is valid if it has no more boards than an interface can serve, a
positive timeout, and addresses that are dotted quads.  `ManagerConfig.validate` reports
the first of these that fails, in that order.
-/
import WrenchLink.Sensor.Limits

namespace WrenchLink

structure BoardConfig where
  address : String
  tcpService : Bool := true
  tcpPort : UInt16 := defaultPort
  udpService : Bool := true
  udpPort : UInt16 := defaultPort
  deriving DecidableEq, Repr

structure SensorConfig where
  settleTimeMs : UInt64 := defaultSettleTimeMs
  /-- Bound on the wait for each reply; none waits as long as it takes. -/
  tcpReadTimeoutMs : Option UInt64 := none
  limits : Limits := Limits.default
  deriving DecidableEq, Repr

structure ManagerConfig where
  /-- Address of the interface that faces the boards. -/
  localAddress : String
  port : UInt16 := defaultPort
  timeoutMs : UInt64 := defaultTimeoutMs
  boards : List BoardConfig := []
  sensor : SensorConfig := {}
  deriving DecidableEq, Repr

def parseAddress (text : String) : Except ConfigFault Address :=
  match Address.parse? text with
  | some address => .ok address
  | none => .error (.invalidAddress text)

namespace BoardConfig

def new (address : Address) (port : UInt16) : BoardConfig :=
  { address := address.toString, tcpPort := port, udpPort := port }

def ip (b : BoardConfig) : Except ConfigFault Address := parseAddress b.address

end BoardConfig

namespace ManagerConfig

/-- An interface with no boards and everything else at its default. -/
def new (address : Address) : ManagerConfig := { localAddress := address.toString }

def localIp (c : ManagerConfig) : Except ConfigFault Address := parseAddress c.localAddress

/-- Fails with the first check that the configuration does not pass: the number of boards,
the timeout, the interface's address, the boards' addresses in their order. -/
def validate (c : ManagerConfig) : Except ConfigFault Unit :=
  if maxBoards < c.boards.length then .error (.tooManyBoards c.boards.length)
  else if c.timeoutMs = 0 then .error .zeroTimeout
  else do
    let _ ← c.localIp
    c.boards.forM fun b => b.ip.map fun _ => ()

def agrees (c d : ManagerConfig) : Bool :=
  { c with sensor.limits := Limits.default } == { d with sensor.limits := Limits.default } &&
    c.sensor.limits.agrees d.sensor.limits

end ManagerConfig
end WrenchLink

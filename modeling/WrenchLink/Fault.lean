/-
Everything that can go wrong between this host and its boards, and how it is said.

A fault records its cause; the wording is `Fault.message` and nowhere else.
-/
import WrenchLink.Address
import WrenchLink.Defaults
import WrenchLink.Text.Quoted
import WrenchLink.Wire.Enumeration

namespace WrenchLink

inductive Service where
  | tcp
  | udp
  deriving DecidableEq, Repr

namespace Service

def name : Service → String
  | tcp => "tcp"
  | udp => "udp"

end Service

/-- A socket could not be set up, or its peer ended the exchange. -/
inductive TransportFault where
  | bindFailed (interface : Endpoint)
  | readTimeoutRefused
  | connectFailed (peer : Endpoint)
  | notConnected (peer : Endpoint)
  | closedByPeer (peer : Endpoint)
  deriving DecidableEq, Repr

namespace TransportFault

def message : TransportFault → String
  | bindFailed interface => s!"bind {interface} failed"
  | readTimeoutRefused => "read timeout"
  | connectFailed peer => s!"connect to {peer} failed"
  | notConnected peer => s!"{peer} not connected"
  | closedByPeer peer => s!"{peer} closed the connection"

end TransportFault

/-- The operating system gave up on a transfer. -/
inductive SystemFault where
  | readTimedOut
  | notSent
  | fileNotWritten
  deriving DecidableEq, Repr

namespace SystemFault

def message : SystemFault → String
  | readTimedOut => "no data within the read timeout"
  | notSent => "data could not be sent"
  | fileNotWritten => "file could not be written"

end SystemFault

/-- A configuration could not be read, written or accepted. -/
inductive ConfigFault where
  | unreadable
  | malformed
  | unwritable
  | tooManyBoards (count : Nat)
  | zeroTimeout
  | invalidAddress (text : String)
  deriving DecidableEq, Repr

namespace ConfigFault

def message : ConfigFault → String
  | unreadable => "file could not be read"
  | malformed => "malformed configuration"
  | unwritable => "number out of range"
  | tooManyBoards count => s!"{count} boards configured, at most {maxBoards} supported"
  | zeroTimeout => "timeout_ms must be positive"
  | invalidAddress text => "invalid IPv4 address: " ++ Text.quoted text

end ConfigFault

inductive Fault where
  /-- A value needs more bytes than the buffer has left. -/
  | bufferTooSmall (required available : Nat)
  | system (cause : SystemFault)
  | transport (cause : TransportFault)
  | serviceUnavailable (board : Nat) (service : Service)
  | invalidBoardId (board : Nat)
  | boardLimitReached
  | notBound
  | recvTimeout
  /-- A reply carries another id than its transaction awaits. -/
  | protocolMismatch (expected actual : Nat)
  | unknownMessageId (id : Nat)
  | invalidEnumerator (kind : Enumeration) (value : Int)
  /-- A residual after offset calibration is beyond its bound. -/
  | calibrationOutOfBounds
  | config (cause : ConfigFault)
  deriving DecidableEq, Repr

namespace Fault

def message : Fault → String
  | bufferTooSmall required available =>
    s!"Buffer too small: required {required}, available {available}"
  | system cause => "I/O error: " ++ cause.message
  | transport cause => "Transport error: " ++ cause.message
  | serviceUnavailable board service => s!"Board {board} has no {service.name} service"
  | invalidBoardId board => s!"Invalid board id: {board}"
  | boardLimitReached => s!"Board limit reached ({maxBoards} boards)"
  | notBound => "Broadcast socket not bound"
  | recvTimeout => "UDP receive timed out"
  | protocolMismatch expected actual =>
    s!"Protocol mismatch: expected message id {expected}, got {actual}"
  | unknownMessageId id => s!"Unknown message id: {id}"
  | invalidEnumerator kind value => s!"Invalid {kind.name} value: {value}"
  | calibrationOutOfBounds => "Calibration residual out of bounds"
  | config cause => "Configuration error: " ++ cause.message

end Fault
end WrenchLink

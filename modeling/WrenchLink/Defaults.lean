/-
The figures that a manager and its boards come with.
-/

namespace WrenchLink

def maxBoards : Nat := 4

/-- The port that boards and interfaces use unless told otherwise. -/
def defaultPort : UInt16 := 64321

/-- The poll timeout in milliseconds, also how long a board may be silent. -/
def defaultTimeoutMs : UInt64 := 50

/-- How long a board takes to settle after an offset calibration, in milliseconds. -/
def defaultSettleTimeMs : UInt64 := 310

/-- Reported instead of a board when a poll sees no traffic at all. -/
def noTrafficBoard : Nat := 99

def packetCapacity : Nat := 256

def axisCount : Nat := 6

def slotSize : Nat := 4

def headerSize : Nat := 4

/-- The version of the encoding that headers announce. -/
def encodingVersion : UInt8 := 1

def protocolVersion : Nat := 1

end WrenchLink

/-
The requests that can be made of a sensor.

A request is one message to the board.  Some requests await a reply: `Request.awaited`
says of which kind, and what the answer is that its fields give.  The others are only
sent.
-/
import WrenchLink.Sensor.Axes

namespace WrenchLink

/-- The eight octets of a hardware address; the last two are padding. -/
structure MacAddress where
  o0 : UInt8
  o1 : UInt8
  o2 : UInt8
  o3 : UInt8
  o4 : UInt8
  o5 : UInt8
  o6 : UInt8
  o7 : UInt8
  deriving DecidableEq, Repr

namespace MacAddress

def toList (x : MacAddress) : Bytes := [x.o0, x.o1, x.o2, x.o3, x.o4, x.o5, x.o6, x.o7]

def ofList? : Bytes → Option MacAddress
  | [o0, o1, o2, o3, o4, o5, o6, o7] => some ⟨o0, o1, o2, o3, o4, o5, o6, o7⟩
  | _ => none

/-- The address with its padding zero, as it is sent. -/
def cleared (x : MacAddress) : MacAddress := { x with o6 := 0, o7 := 0 }

end MacAddress

/-- What a board remembers of its making. -/
structure Inventory where
  designCode : UInt32
  boardVersion : UInt32
  boardRevision : UInt32
  serialNumber : UInt32
  dateTime : UInt32
  deriving DecidableEq, Repr

inductive Request where
  /-- The rate counts half milliseconds. -/
  | setSampleStreamPolicy (policy : SampleStreamPolicy) (rate : UInt32)
  | getSampleStreamPolicy
  | getBoardInfo
  | getFault
  | clearFault
  | calibrateOffsets
  | getCalibrationOffsets
  | setTempFactors (factors : Axes UInt32)
  | getCalibrationTemp
  | setMatrixRow (row : UInt32) (coefficients : Axes Binary32)
  | getMatrixRow (row : UInt32)
  | saveParams
  | setIpAddress (address : Address)
  | getIpAddress
  | setMacAddress (address : MacAddress)
  | getMacAddress
  | setNetmask (netmask : Address)
  | getNetmask
  | setGateway (gateway : Address)
  | getGateway
  | readInventory
  | writeInventory (inventory : Inventory)
  deriving DecidableEq, Repr

inductive Answer where
  | done
  | policy (policy : SampleStreamPolicy)
  | word (n : UInt32)
  | temperature (t : Int32)
  | offsets (offsets : Axes UInt32)
  | coefficients (row : Axes Binary32)
  | address (address : Address)
  | macReturn (outcome : MacAddressReturnCode)
  | mac (address : MacAddress)
  | inventory (inventory : Inventory)
  deriving DecidableEq, Repr

/-- A kind of reply, and the answer that its fields give. -/
structure Awaited where
  reply : MessageId
  answer : Values reply.fields → Answer

namespace Request

def message : Request → Message
  | setSampleStreamPolicy policy rate => ⟨.setSampleStreamPolicy, (policy, rate, ())⟩
  | getSampleStreamPolicy => ⟨.getSampleStreamPolicy, ()⟩
  | getBoardInfo => ⟨.getBoardInfo, ()⟩
  | getFault => ⟨.getFault, ()⟩
  | clearFault => ⟨.clearFault, (BoardReturnCode.ok, ())⟩
  | calibrateOffsets => ⟨.calibrateOffsets, ()⟩
  | getCalibrationOffsets => ⟨.getCalibrationOffsets, ()⟩
  | setTempFactors t => ⟨.setTempFactors, (t.fx, t.fy, t.fz, t.tx, t.ty, t.tz, ())⟩
  | getCalibrationTemp => ⟨.getCalibrationTemp, ()⟩
  | setMatrixRow row c =>
    ⟨.setCalibrationMatrixRow, (row, c.fx, c.fy, c.fz, c.tx, c.ty, c.tz, ())⟩
  | getMatrixRow row => ⟨.getCalibrationMatrixRow, (row, ())⟩
  | saveParams => ⟨.saveParamsOnFlash, ()⟩
  | setIpAddress address => ⟨.setIpAddress, (address.toWord, ())⟩
  | getIpAddress => ⟨.getIpAddress, ()⟩
  | setMacAddress address =>
    let m := address.cleared
    ⟨.setMacAddress, (m.o0, m.o1, m.o2, m.o3, m.o4, m.o5, m.o6, m.o7, ())⟩
  | getMacAddress => ⟨.getMacAddress, ()⟩
  | setNetmask netmask => ⟨.setNetmask, (netmask.toWord, ())⟩
  | getNetmask => ⟨.getNetmask, ()⟩
  | setGateway gateway => ⟨.setGateway, (gateway.toWord, ())⟩
  | getGateway => ⟨.getGateway, ()⟩
  | readInventory => ⟨.loadInventoryDataFromFlash, ()⟩
  | writeInventory i =>
    ⟨.saveInventoryDataOnFlash,
      (i.designCode, i.boardVersion, i.boardRevision, i.serialNumber, i.dateTime, ())⟩

/-- The reply that the request waits for, if it waits for one. -/
def awaited : Request → Option Awaited
  | getSampleStreamPolicy => some ⟨.replyGetSampleStreamPolicy, fun (policy, ()) => .policy policy⟩
  | getBoardInfo => some ⟨.replyBoardInfo, fun (release, ()) => .word release⟩
  | getFault => some ⟨.replyFault, fun (fault, ()) => .word fault⟩
  | clearFault => some ⟨.replyClearFault, fun (fault, ()) => .word fault⟩
  | getCalibrationOffsets =>
    some ⟨.replyGetCalibrationOffsets,
      fun (c0, c1, c2, c3, c4, c5, ()) => .offsets ⟨c0, c1, c2, c3, c4, c5⟩⟩
  | setTempFactors _ => some ⟨.replySetTempFactors, fun (policy, ()) => .policy policy⟩
  | getCalibrationTemp =>
    some ⟨.replyGetCalibrationTemp, fun (temperature, ()) => .temperature temperature⟩
  | getMatrixRow _ =>
    some ⟨.replyGetCalibrationMatrixRow,
      fun (_, c0, c1, c2, c3, c4, c5, ()) => .coefficients ⟨c0, c1, c2, c3, c4, c5⟩⟩
  | getIpAddress => some ⟨.replyGetIpAddress, fun (word, ()) => .address (.ofWord word)⟩
  | setMacAddress _ => some ⟨.replySetMacAddress, fun (outcome, ()) => .macReturn outcome⟩
  | getMacAddress =>
    some ⟨.replyGetMacAddress,
      fun (m0, m1, m2, m3, m4, m5, m6, m7, ()) => .mac ⟨m0, m1, m2, m3, m4, m5, m6, m7⟩⟩
  | getNetmask => some ⟨.replyGetNetmask, fun (word, ()) => .address (.ofWord word)⟩
  | getGateway => some ⟨.replyGetGateway, fun (word, ()) => .address (.ofWord word)⟩
  | readInventory =>
    some ⟨.replyLoadInventoryDataFromFlash,
      fun (design, version, revision, serial, date, ()) =>
        .inventory ⟨design, version, revision, serial, date⟩⟩
  | setSampleStreamPolicy _ _ | calibrateOffsets | setMatrixRow _ _ | saveParams
  | setIpAddress _ | setNetmask _ | setGateway _ | writeInventory _ => none

end Request
end WrenchLink

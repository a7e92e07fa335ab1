/-
The catalog of messages: every id with its number, its name and its fields.

Odd numbers are mostly commands and the following even number the matching reply, but a
command without a reply breaks the pairing, so the numbers are given by the order of the
list and not by a rule.  `ofNumber?` accepts exactly the numbers of the catalog.
-/
import WrenchLink.Wire.Scalar

namespace WrenchLink

inductive MessageId where
  | getBoardInfo
  | replyBoardInfo
  | calibrateOffsets
  | replyCalibrateOffsets
  | getFault
  | replyFault
  | clearFault
  | replyClearFault
  | setSampleStreamPolicy
  | replySetSampleStreamPolicy
  | getSampleStreamPolicy
  | replyGetSampleStreamPolicy
  | setTempFactors
  | replySetTempFactors
  | getCalibrationTemp
  | replyGetCalibrationTemp
  | setCalibrationMatrixRow
  | replySetCalibrationMatrixRow
  | getCalibrationMatrixRow
  | replyGetCalibrationMatrixRow
  | getCalibrationOffsets
  | replyGetCalibrationOffsets
  | broadcastSensorData
  | saveParamsOnFlash
  | setIpAddress
  | getIpAddress
  | replyGetIpAddress
  | setMacAddress
  | replySetMacAddress
  | getMacAddress
  | replyGetMacAddress
  | setNetmask
  | getNetmask
  | replyGetNetmask
  | setGateway
  | getGateway
  | replyGetGateway
  | saveInventoryDataOnFlash
  | loadInventoryDataFromFlash
  | replyLoadInventoryDataFromFlash
  deriving DecidableEq, Repr

structure Field where
  name : String
  kind : Scalar
  deriving DecidableEq, Repr

namespace MessageId

def all : List MessageId := [
   getBoardInfo, replyBoardInfo, calibrateOffsets, replyCalibrateOffsets, getFault, replyFault,
   clearFault, replyClearFault, setSampleStreamPolicy, replySetSampleStreamPolicy,
   getSampleStreamPolicy, replyGetSampleStreamPolicy, setTempFactors, replySetTempFactors,
   getCalibrationTemp, replyGetCalibrationTemp, setCalibrationMatrixRow,
   replySetCalibrationMatrixRow, getCalibrationMatrixRow, replyGetCalibrationMatrixRow,
   getCalibrationOffsets, replyGetCalibrationOffsets, broadcastSensorData, saveParamsOnFlash,
   setIpAddress, getIpAddress, replyGetIpAddress, setMacAddress, replySetMacAddress,
   getMacAddress, replyGetMacAddress, setNetmask, getNetmask, replyGetNetmask, setGateway,
   getGateway, replyGetGateway, saveInventoryDataOnFlash, loadInventoryDataFromFlash,
   replyLoadInventoryDataFromFlash]

/-- The number that a header carries.  Numbers count from one. -/
def number (id : MessageId) : Nat := id.ctorIdx + 1

def ofNumber? (n : Nat) : Option MessageId :=
  if n = 0 then none else all[n - 1]?

def name : MessageId → String
  | getBoardInfo => "GetBoardInfo"
  | replyBoardInfo => "ReplyBoardInfo"
  | calibrateOffsets => "CalibrateOffsets"
  | replyCalibrateOffsets => "ReplyCalibrateOffsets"
  | getFault => "GetFault"
  | replyFault => "ReplyFault"
  | clearFault => "ClearFault"
  | replyClearFault => "ReplyClearFault"
  | setSampleStreamPolicy => "SetSampleStreamPolicy"
  | replySetSampleStreamPolicy => "ReplySetSampleStreamPolicy"
  | getSampleStreamPolicy => "GetSampleStreamPolicy"
  | replyGetSampleStreamPolicy => "ReplyGetSampleStreamPolicy"
  | setTempFactors => "SetTempFactors"
  | replySetTempFactors => "ReplySetTempFactors"
  | getCalibrationTemp => "GetCalibrationTemp"
  | replyGetCalibrationTemp => "ReplyGetCalibrationTemp"
  | setCalibrationMatrixRow => "SetCalibrationMatrixRow"
  | replySetCalibrationMatrixRow => "ReplySetCalibrationMatrixRow"
  | getCalibrationMatrixRow => "GetCalibrationMatrixRow"
  | replyGetCalibrationMatrixRow => "ReplyGetCalibrationMatrixRow"
  | getCalibrationOffsets => "GetCalibrationOffsets"
  | replyGetCalibrationOffsets => "ReplyGetCalibrationOffsets"
  | broadcastSensorData => "BCastSensorData"
  | saveParamsOnFlash => "SaveParamsOnFlash"
  | setIpAddress => "SetIpAddress"
  | getIpAddress => "GetIpAddress"
  | replyGetIpAddress => "ReplyGetIpAddress"
  | setMacAddress => "SetMacAddress"
  | replySetMacAddress => "ReplySetMacAddress"
  | getMacAddress => "GetMacAddress"
  | replyGetMacAddress => "ReplyGetMacAddress"
  | setNetmask => "SetNetmask"
  | getNetmask => "GetNetmask"
  | replyGetNetmask => "ReplyGetNetmask"
  | setGateway => "SetGateway"
  | getGateway => "GetGateway"
  | replyGetGateway => "ReplyGetGateway"
  | saveInventoryDataOnFlash => "SaveInventoryDataOnFlash"
  | loadInventoryDataFromFlash => "LoadInventoryDataFromFlash"
  | replyLoadInventoryDataFromFlash => "ReplyLoadInventoryDataFromFlash"

/-- The fields of the message in the order in which they travel. -/
def fields : MessageId → List Field
  | getBoardInfo => []
  | replyBoardInfo => [⟨"release", .u32⟩]
  | calibrateOffsets => []
  | replyCalibrateOffsets => [⟨"brc", .enumeration .boardReturnCode⟩]
  | getFault => []
  | replyFault => [⟨"fault", .u32⟩]
  | clearFault => [⟨"brc", .enumeration .boardReturnCode⟩]
  | replyClearFault => [⟨"fault", .u32⟩]
  | setSampleStreamPolicy => [⟨"policy", .enumeration .sampleStreamPolicy⟩, ⟨"rate", .u32⟩]
  | replySetSampleStreamPolicy => [⟨"brc", .enumeration .boardReturnCode⟩]
  | getSampleStreamPolicy => []
  | replyGetSampleStreamPolicy => [⟨"policy", .enumeration .sampleStreamPolicy⟩]
  | setTempFactors => [
    ⟨"t0", .u32⟩, ⟨"t1", .u32⟩, ⟨"t2", .u32⟩, ⟨"t3", .u32⟩, ⟨"t4", .u32⟩, ⟨"t5", .u32⟩]
  | replySetTempFactors => [⟨"policy", .enumeration .sampleStreamPolicy⟩]
  | getCalibrationTemp => []
  | replyGetCalibrationTemp => [⟨"calibration_temp", .i32⟩]
  | setCalibrationMatrixRow => [
    ⟨"row", .u32⟩, ⟨"c0", .f32⟩, ⟨"c1", .f32⟩, ⟨"c2", .f32⟩, ⟨"c3", .f32⟩, ⟨"c4", .f32⟩,
    ⟨"c5", .f32⟩]
  | replySetCalibrationMatrixRow => [⟨"brc", .enumeration .boardReturnCode⟩]
  | getCalibrationMatrixRow => [⟨"row", .u32⟩]
  | replyGetCalibrationMatrixRow => [
    ⟨"row", .u32⟩, ⟨"c0", .f32⟩, ⟨"c1", .f32⟩, ⟨"c2", .f32⟩, ⟨"c3", .f32⟩, ⟨"c4", .f32⟩,
    ⟨"c5", .f32⟩]
  | getCalibrationOffsets => []
  | replyGetCalibrationOffsets => [
    ⟨"c0", .u32⟩, ⟨"c1", .u32⟩, ⟨"c2", .u32⟩, ⟨"c3", .u32⟩, ⟨"c4", .u32⟩, ⟨"c5", .u32⟩]
  | broadcastSensorData => [
    ⟨"fx", .f32⟩, ⟨"fy", .f32⟩, ⟨"fz", .f32⟩, ⟨"tx", .f32⟩, ⟨"ty", .f32⟩, ⟨"tz", .f32⟩,
    ⟨"raw0", .f32⟩, ⟨"raw1", .f32⟩, ⟨"raw2", .f32⟩, ⟨"raw3", .f32⟩, ⟨"raw4", .f32⟩,
    ⟨"raw5", .f32⟩]
  | saveParamsOnFlash => []
  | setIpAddress => [⟨"ip_address", .u32⟩]
  | getIpAddress => []
  | replyGetIpAddress => [⟨"ip_address", .u32⟩]
  | setMacAddress => [
    ⟨"m0", .u8⟩, ⟨"m1", .u8⟩, ⟨"m2", .u8⟩, ⟨"m3", .u8⟩, ⟨"m4", .u8⟩, ⟨"m5", .u8⟩, ⟨"m6", .u8⟩,
    ⟨"m7", .u8⟩]
  | replySetMacAddress => [⟨"macrc", .enumeration .macAddressReturnCode⟩]
  | getMacAddress => []
  | replyGetMacAddress => [
    ⟨"m0", .u8⟩, ⟨"m1", .u8⟩, ⟨"m2", .u8⟩, ⟨"m3", .u8⟩, ⟨"m4", .u8⟩, ⟨"m5", .u8⟩, ⟨"m6", .u8⟩,
    ⟨"m7", .u8⟩]
  | setNetmask => [⟨"netmask", .u32⟩]
  | getNetmask => []
  | replyGetNetmask => [⟨"netmask", .u32⟩]
  | setGateway => [⟨"gateway", .u32⟩]
  | getGateway => []
  | replyGetGateway => [⟨"gateway", .u32⟩]
  | saveInventoryDataOnFlash => [
    ⟨"design_code", .u32⟩, ⟨"board_ver", .u32⟩, ⟨"board_rev", .u32⟩, ⟨"serial_number", .u32⟩,
    ⟨"date_time", .u32⟩]
  | loadInventoryDataFromFlash => []
  | replyLoadInventoryDataFromFlash => [
    ⟨"design_code", .u32⟩, ⟨"board_ver", .u32⟩, ⟨"board_rev", .u32⟩, ⟨"serial_number", .u32⟩,
    ⟨"date_time", .u32⟩]

def ofName? (name : String) : Option MessageId := all.find? fun id => id.name == name

@[simp] theorem ofNumber?_number (id : MessageId) : ofNumber? id.number = some id := by
  cases id <;> rfl

theorem number_pos (id : MessageId) : 0 < id.number := Nat.succ_pos _

theorem number_le (id : MessageId) : id.number ≤ 40 := by
  cases id <;> decide

theorem number_of_ofNumber? {n : Nat} {id : MessageId} (h : ofNumber? n = some id) :
    id.number = n := by
  rw [ofNumber?] at h
  split at h
  · cases h
  · rename_i hn
    obtain ⟨hlt, hget⟩ := List.getElem?_eq_some_iff.mp h
    have hindex : ∀ i (hi : i < all.length), (all[i]).ctorIdx = i := by decide
    have hidx := hindex (n - 1) hlt
    rw [hget] at hidx
    rw [number, hidx]
    omega

end MessageId
end WrenchLink

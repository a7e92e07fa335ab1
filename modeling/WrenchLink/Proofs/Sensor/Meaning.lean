/-
What the requests of a sensor say to its board, and what the replies say back.

`Request.ConveyedBy` spells out which message stands for a request, with every argument in its
place, and `Request.AnsweredBy` which answer the fields of a reply amount to.  An address stands
for a word by the value of its octets.  The relations are written down without looking at
`Request.message` or `Request.awaited`, and agree with them: `conveyedBy_iff`, `answeredBy_iff`.
-/
import WrenchLink.Sensor.Request

namespace WrenchLink

/-- The word has the four octets of the address, the first of them most significant. -/
def Address.IsWord (a : Address) (word : UInt32) : Prop :=
  word.toNat = ((a.a.toNat * 256 + a.b.toNat) * 256 + a.c.toNat) * 256 + a.d.toNat

theorem Address.isWord_iff {a : Address} {word : UInt32} : a.IsWord word ↔ a = ofWord word := by
  rw [IsWord, ← a.toNat_toWord, UInt32.toNat_inj]
  constructor
  · rintro rfl
    exact a.ofWord_toWord.symm
  · rintro rfl
    exact (toWord_ofWord word).symm

namespace Request

/-- The message stands for the request.  The last two octets of a hardware address are padding
and are sent as zero. -/
inductive ConveyedBy : Request → Message → Prop where
  | setSampleStreamPolicy (policy : SampleStreamPolicy) (rate : UInt32) :
    ConveyedBy (.setSampleStreamPolicy policy rate) ⟨.setSampleStreamPolicy, (policy, rate, ())⟩
  | getSampleStreamPolicy : ConveyedBy .getSampleStreamPolicy ⟨.getSampleStreamPolicy, ()⟩
  | getBoardInfo : ConveyedBy .getBoardInfo ⟨.getBoardInfo, ()⟩
  | getFault : ConveyedBy .getFault ⟨.getFault, ()⟩
  | clearFault : ConveyedBy .clearFault ⟨.clearFault, (BoardReturnCode.ok, ())⟩
  | calibrateOffsets : ConveyedBy .calibrateOffsets ⟨.calibrateOffsets, ()⟩
  | getCalibrationOffsets : ConveyedBy .getCalibrationOffsets ⟨.getCalibrationOffsets, ()⟩
  | setTempFactors (t0 t1 t2 t3 t4 t5 : UInt32) :
    ConveyedBy (.setTempFactors ⟨t0, t1, t2, t3, t4, t5⟩)
      ⟨.setTempFactors, (t0, t1, t2, t3, t4, t5, ())⟩
  | getCalibrationTemp : ConveyedBy .getCalibrationTemp ⟨.getCalibrationTemp, ()⟩
  | setMatrixRow (row : UInt32) (c0 c1 c2 c3 c4 c5 : Binary32) :
    ConveyedBy (.setMatrixRow row ⟨c0, c1, c2, c3, c4, c5⟩)
      ⟨.setCalibrationMatrixRow, (row, c0, c1, c2, c3, c4, c5, ())⟩
  | getMatrixRow (row : UInt32) :
    ConveyedBy (.getMatrixRow row) ⟨.getCalibrationMatrixRow, (row, ())⟩
  | saveParams : ConveyedBy .saveParams ⟨.saveParamsOnFlash, ()⟩
  | setIpAddress {a : Address} {word : UInt32} (h : a.IsWord word) :
    ConveyedBy (.setIpAddress a) ⟨.setIpAddress, (word, ())⟩
  | getIpAddress : ConveyedBy .getIpAddress ⟨.getIpAddress, ()⟩
  | setMacAddress (o0 o1 o2 o3 o4 o5 o6 o7 : UInt8) :
    ConveyedBy (.setMacAddress ⟨o0, o1, o2, o3, o4, o5, o6, o7⟩)
      ⟨.setMacAddress, (o0, o1, o2, o3, o4, o5, (0 : UInt8), (0 : UInt8), ())⟩
  | getMacAddress : ConveyedBy .getMacAddress ⟨.getMacAddress, ()⟩
  | setNetmask {netmask : Address} {word : UInt32} (h : netmask.IsWord word) :
    ConveyedBy (.setNetmask netmask) ⟨.setNetmask, (word, ())⟩
  | getNetmask : ConveyedBy .getNetmask ⟨.getNetmask, ()⟩
  | setGateway {gateway : Address} {word : UInt32} (h : gateway.IsWord word) :
    ConveyedBy (.setGateway gateway) ⟨.setGateway, (word, ())⟩
  | getGateway : ConveyedBy .getGateway ⟨.getGateway, ()⟩
  | readInventory : ConveyedBy .readInventory ⟨.loadInventoryDataFromFlash, ()⟩
  | writeInventory (design version revision serial date : UInt32) :
    ConveyedBy (.writeInventory ⟨design, version, revision, serial, date⟩)
      ⟨.saveInventoryDataOnFlash, (design, version, revision, serial, date, ())⟩

/-- The message replies to the request, and its fields amount to the answer. -/
inductive AnsweredBy : Request → Message → Answer → Prop where
  | getSampleStreamPolicy (policy : SampleStreamPolicy) :
    AnsweredBy .getSampleStreamPolicy ⟨.replyGetSampleStreamPolicy, (policy, ())⟩ (.policy policy)
  | getBoardInfo (release : UInt32) :
    AnsweredBy .getBoardInfo ⟨.replyBoardInfo, (release, ())⟩ (.word release)
  | getFault (fault : UInt32) : AnsweredBy .getFault ⟨.replyFault, (fault, ())⟩ (.word fault)
  | clearFault (fault : UInt32) :
    AnsweredBy .clearFault ⟨.replyClearFault, (fault, ())⟩ (.word fault)
  | getCalibrationOffsets (c0 c1 c2 c3 c4 c5 : UInt32) :
    AnsweredBy .getCalibrationOffsets
      ⟨.replyGetCalibrationOffsets, (c0, c1, c2, c3, c4, c5, ())⟩
      (.offsets ⟨c0, c1, c2, c3, c4, c5⟩)
  | setTempFactors (factors : Axes UInt32) (policy : SampleStreamPolicy) :
    AnsweredBy (.setTempFactors factors) ⟨.replySetTempFactors, (policy, ())⟩ (.policy policy)
  | getCalibrationTemp (temperature : Int32) :
    AnsweredBy .getCalibrationTemp ⟨.replyGetCalibrationTemp, (temperature, ())⟩
      (.temperature temperature)
  | getMatrixRow (asked row : UInt32) (c0 c1 c2 c3 c4 c5 : Binary32) :
    AnsweredBy (.getMatrixRow asked)
      ⟨.replyGetCalibrationMatrixRow, (row, c0, c1, c2, c3, c4, c5, ())⟩
      (.coefficients ⟨c0, c1, c2, c3, c4, c5⟩)
  | getIpAddress {a : Address} {word : UInt32} (h : a.IsWord word) :
    AnsweredBy .getIpAddress ⟨.replyGetIpAddress, (word, ())⟩ (.address a)
  | setMacAddress (mac : MacAddress) (outcome : MacAddressReturnCode) :
    AnsweredBy (.setMacAddress mac) ⟨.replySetMacAddress, (outcome, ())⟩ (.macReturn outcome)
  | getMacAddress (o0 o1 o2 o3 o4 o5 o6 o7 : UInt8) :
    AnsweredBy .getMacAddress ⟨.replyGetMacAddress, (o0, o1, o2, o3, o4, o5, o6, o7, ())⟩
      (.mac ⟨o0, o1, o2, o3, o4, o5, o6, o7⟩)
  | getNetmask {netmask : Address} {word : UInt32} (h : netmask.IsWord word) :
    AnsweredBy .getNetmask ⟨.replyGetNetmask, (word, ())⟩ (.address netmask)
  | getGateway {gateway : Address} {word : UInt32} (h : gateway.IsWord word) :
    AnsweredBy .getGateway ⟨.replyGetGateway, (word, ())⟩ (.address gateway)
  | readInventory (design version revision serial date : UInt32) :
    AnsweredBy .readInventory
      ⟨.replyLoadInventoryDataFromFlash, (design, version, revision, serial, date, ())⟩
      (.inventory ⟨design, version, revision, serial, date⟩)

/-- The request waits for a reply of that kind. -/
def Awaits (request : Request) (id : MessageId) : Prop :=
  ∃ values answer, request.AnsweredBy ⟨id, values⟩ answer

/-- The requests that a board carries out without a reply. -/
def isCommand : Request → Bool
  | .setSampleStreamPolicy _ _ | .calibrateOffsets | .setMatrixRow _ _ | .saveParams
  | .setIpAddress _ | .setNetmask _ | .setGateway _ | .writeInventory _ => true
  | _ => false

theorem conveyedBy_iff {request : Request} {m : Message} :
    request.ConveyedBy m ↔ m = request.message := by
  constructor
  · intro h
    cases h with
    | setIpAddress h | setNetmask h | setGateway h =>
      obtain rfl := Address.isWord_iff.mp h
      simp [message]
    | _ => rfl
  · rintro rfl
    cases request with
    | setIpAddress a => exact .setIpAddress (Address.isWord_iff.mpr a.ofWord_toWord.symm)
    | setNetmask a => exact .setNetmask (Address.isWord_iff.mpr a.ofWord_toWord.symm)
    | setGateway a => exact .setGateway (Address.isWord_iff.mpr a.ofWord_toWord.symm)
    | _ => constructor

/-- The request with the padding of a hardware address cleared. -/
def asSent : Request → Request
  | .setMacAddress a => .setMacAddress a.cleared
  | request => request

/-- A message conveys one request only, but for the padding of a hardware address. -/
theorem ConveyedBy.asSent_eq {request other : Request} {m : Message} (h : request.ConveyedBy m)
    (h' : other.ConveyedBy m) : other.asSent = request.asSent := by
  cases h with
  | setIpAddress h =>
    cases h' with
    | setIpAddress h' => rw [Address.isWord_iff.mp h, Address.isWord_iff.mp h']
  | setNetmask h =>
    cases h' with
    | setNetmask h' => rw [Address.isWord_iff.mp h, Address.isWord_iff.mp h']
  | setGateway h =>
    cases h' with
    | setGateway h' => rw [Address.isWord_iff.mp h, Address.isWord_iff.mp h']
  | _ => cases h'; rfl

/-- A reply is of the kind that the request awaits, and the answer is what its values give. -/
theorem AnsweredBy.eq_answer {request : Request} {reply : Message} {answer : Answer}
    (h : request.AnsweredBy reply answer) :
    ∃ awaited values, request.awaited = some awaited ∧ reply = ⟨awaited.reply, values⟩ ∧
      answer = awaited.answer values := by
  cases h with
  | getIpAddress h | getNetmask h | getGateway h =>
    exact ⟨_, _, rfl, rfl, congrArg Answer.address (Address.isWord_iff.mp h)⟩
  | _ => exact ⟨_, _, rfl, rfl, rfl⟩

theorem answeredBy_iff {request : Request} {awaited : Awaited}
    (hawaited : request.awaited = some awaited) {values : Values awaited.reply.fields}
    {answer : Answer} :
    request.AnsweredBy ⟨awaited.reply, values⟩ answer ↔ answer = awaited.answer values := by
  constructor
  · intro h
    obtain ⟨awaited', values', hawaited', hreply, rfl⟩ := h.eq_answer
    obtain rfl := Option.some.inj (hawaited.symm.trans hawaited')
    cases hreply
    rfl
  · rintro rfl
    cases request with
    | getIpAddress =>
      cases hawaited
      exact .getIpAddress (Address.isWord_iff.mpr rfl)
    | getNetmask =>
      cases hawaited
      exact .getNetmask (Address.isWord_iff.mpr rfl)
    | getGateway =>
      cases hawaited
      exact .getGateway (Address.isWord_iff.mpr rfl)
    | _ => cases hawaited <;> constructor

theorem Awaits.exists_awaited {request : Request} {id : MessageId} (h : request.Awaits id) :
    ∃ awaited, request.awaited = some awaited ∧ awaited.reply = id := by
  obtain ⟨values, answer, h⟩ := h
  obtain ⟨awaited, _, hawaited, hreply, -⟩ := h.eq_answer
  exact ⟨awaited, hawaited, (congrArg Message.id hreply).symm⟩

theorem awaited_eq_none_iff {request : Request} :
    request.awaited = none ↔ request.isCommand = true := by
  cases request <;> simp [awaited, isCommand]

end Request
end WrenchLink

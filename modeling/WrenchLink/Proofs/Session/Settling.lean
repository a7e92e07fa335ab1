/-
The time that a board takes to settle.

An offset calibration is sent at once and judged later: in between its call has not returned, and
the sensor is `Settling`.  It stays so, whatever happens meanwhile, until the time is over or the
sensor is dropped (`settling_through`), and then it is judged by the sample that it holds by that
time (`outcome_settles`).
-/
import WrenchLink.Proofs.Sensor.Mismatch
import WrenchLink.Proofs.Session.Shift

namespace WrenchLink

variable {η τ : Type}

/-- The request that starts a calibration is the same four bytes over whatever a packet holds. -/
theorem Packet.frameIn_calibrateOffsets (p : Packet) :
    (Request.message .calibrateOffsets).frameIn p.content = [4, 0, 0x31, 0] := by
  rw [Message.frameIn, Message.encode_eq _ (p.room (Request.message .calibrateOffsets))]
  rfl

namespace Sensor

/-- What an offset calibration comes to if it is judged by that sample. -/
def judgedBy (x : Sensor) (sample : Sample) : Except Fault Reply :=
  if x.limits.accepts sample.forceTorque then .ok (.answer .done)
  else .error .calibrationOutOfBounds

theorem map_verdict (x : Sensor) : x.verdict.map .answer = x.judgedBy x.sample := by
  rw [verdict, judgedBy, withinLimits]
  split <;> rfl

theorem conclude_calibrateOffsets (x : Sensor) : x.conclude .calibrateOffsets = x.settle :=
  if_pos rfl

/-- Once the board is told, the wait for it to settle begins. -/
theorem calibrateOffsets_of_taken {x : Sensor} {m : Manager η} {b : Board η} {stream : Stream}
    (hconnected : m.Connected x.board b stream) {net : Network} {count : Nat}
    (htaken : net.takes .tcp b.tcp.peer [4, 0, 0x31, 0] = .ok count) :
    x.perform net m .calibrateOffsets =
      let told : Sensor := { x with scratch := x.requestPacket (Request.message .calibrateOffsets) }
      ⟨told.settle.1, told.settle.2, m.setBoard x.board
        (b.setStream { stream with
          sent := stream.sent ++ ([4, 0, 0x31, 0] : Bytes).take count })⟩ := by
  have hunanswered : Request.calibrateOffsets.awaited = none := rfl
  rw [← x.scratch.frameIn_calibrateOffsets] at htaken
  rw [perform_of_sent hconnected hunanswered htaken, x.scratch.frameIn_calibrateOffsets]
  simp only [conclude_calibrateOffsets]

end Sensor

namespace Session

variable {s : Session τ} {index : Nat} {x : Sensor}

/-- Once the request is sent, a board that takes no time to settle is judged at once. -/
theorem outcome_calibrateOffsets (hx : s.sensor? index = some x) {b : Board (Callback τ)}
    {stream : Stream} (hconnected : s.manager.Connected x.board b stream) {net : Network}
    {count : Nat} (htaken : net.takes .tcp b.tcp.peer [4, 0, 0x31, 0] = .ok count) :
    (s.step net (.request index .calibrateOffsets)).outcome =
      if x.settleTime = 0 then x.judgedBy x.sample else .ok .waiting := by
  rw [outcome_request hx, Sensor.calibrateOffsets_of_taken hconnected htaken, ← x.map_verdict]
  simp only [Sensor.settle]
  split
  · show (x.verdict.map some).map _ = x.verdict.map _
    cases x.verdict <;> rfl
  · rfl

theorem outcome_settles (hx : s.sensor? index = some x) (hsettling : x.settling = true)
    (net : Network) : (s.step net (.settles index)).outcome = x.judgedBy x.sample := by
  rw [step, hx, ← x.map_verdict]
  simp only [Sensor.settled, hsettling, if_true]
  rfl

/-- The sensor lets its board settle. -/
def Settling (s : Session τ) (index : Nat) : Prop :=
  ∃ x, s.sensor? index = some x ∧ x.settling = true

theorem settling_of_calibrateOffsets (hx : s.sensor? index = some x) {b : Board (Callback τ)}
    {stream : Stream} (hconnected : s.manager.Connected x.board b stream) {net : Network}
    {count : Nat} (htaken : net.takes .tcp b.tcp.peer [4, 0, 0x31, 0] = .ok count)
    (htime : x.settleTime ≠ 0) :
    (s.step net (.request index .calibrateOffsets)).session.Settling index := by
  rw [step, hx]
  simp only [Sensor.calibrateOffsets_of_taken hconnected htaken, Sensor.settle, if_neg htime]
  exact ⟨_, (sensor?_setSensor (s := { s with manager := _ }) hx _ index).trans (if_pos rfl), rfl⟩

theorem settling_setSensor (hs : s.Settling index) {j : Nat} {y z : Sensor}
    (hy : s.sensor? j = some y) (hkept : j = index → y.settling = true → z.settling = true) :
    (s.setSensor j z).Settling index := by
  obtain ⟨x, hx, hsettling⟩ := hs
  by_cases hj : index = j
  · subst hj
    rw [hx, Option.some.injEq] at hy
    subst hy
    exact ⟨z, (sensor?_setSensor hx z index).trans (if_pos rfl), hkept rfl hsettling⟩
  · exact ⟨x, (sensor?_setSensor hy z index).trans ((if_neg hj).trans hx), hsettling⟩

theorem settling_hear (hs : s.Settling index) (events : List (Event (Callback τ)))
    (m : Manager (Callback τ)) (packet : Packet) :
    Settling ⟨m, events.foldl hear s.sensors, packet⟩ index := by
  obtain ⟨x, hx, hsettling⟩ := hs
  refine ⟨{ x with sample := events.foldl (keep index) x.sample }, ?_, hsettling⟩
  rw [sensor?_foldl_hear, hx]
  rfl

/-- Sensors that come do not change the numbers of those that are there. -/
theorem settling_attachSensor (hs : s.Settling index) (net : Network) (board : Nat) :
    (s.step net (.attachSensor board)).session.Settling index := by
  rw [step, attachSensor]
  rcases s.manager.install board (.sensor s.sensors.length) with ⟨fault | token, m⟩
  · exact hs
  · obtain ⟨x, hx, hsettling⟩ := hs
    refine ⟨x, ?_, hsettling⟩
    obtain ⟨hlt, -⟩ := List.getElem?_eq_some_iff.mp (Option.join_eq_some_iff.mp hx)
    show ((s.sensors ++ [_])[index]?).join = some x
    rw [List.getElem?_append_left hlt]
    exact hx

theorem settling_dropSensor (hs : s.Settling index) {j : Nat} (hj : j ≠ index) :
    (s.dropSensor j).Settling index := by
  rw [dropSensor]
  split
  · exact hs
  · obtain ⟨x, hx, hsettling⟩ := hs
    refine ⟨x, ?_, hsettling⟩
    show ((s.sensors.set j none)[index]?).join = some x
    rw [List.getElem?_set_ne hj]
    exact hx

theorem settling_request (hs : s.Settling index) (net : Network) (j : Nat) (request : Request) :
    (s.step net (.request j request)).session.Settling index := by
  rw [step]
  cases hy : s.sensor? j with
  | none => exact hs
  | some y =>
    let s' : Session τ := { s with manager := (y.perform net s.manager request).manager }
    obtain ⟨scratch, settling, hperform, hkept⟩ := y.exists_sensor_perform net s.manager request
    refine settling_setSensor (s := s') hs hy fun _ h => ?_
    rw [hperform]
    exact hkept h

/-- A board settles until that is over or its sensor is dropped. -/
theorem settling_step (net : Network) (hs : s.Settling index) {operation : Operation τ}
    (hsettles : operation ≠ .settles index) (hdrop : operation ≠ .dropSensor index) :
    (s.step net operation).session.Settling index := by
  cases hpolls : operation.polls with
  | true =>
    refine polls_induction (P := fun t _ => t.Settling index) (h := []) net hpolls
      (fun _ _ _ _ ht => ht) (fun t _ ht => ?_) hs
    rw [step_receive]
    exact settling_hear ht _ _ _
  | false =>
    cases operation with
    | loopCatchesUp | stopReceiving => cases hpolls
    | receive =>
      rw [step_receive]
      exact settling_hear hs _ _ _
    | attachSensor board => exact settling_attachSensor hs net board
    | dropSensor j => exact settling_dropSensor hs fun h => hdrop (by rw [h])
    | configureSensor j settleTime limits =>
      rw [step]
      cases hy : s.sensor? j with
      | none => exact hs
      | some y => exact settling_setSensor hs hy fun _ h => h
    | request j request => exact settling_request hs net j request
    | settles j =>
      rw [step]
      cases hy : s.sensor? j with
      | none => exact hs
      | some y => exact settling_setSensor hs hy fun h => absurd (by rw [h]) hsettles
    | boardWrites board bytes | boardHangsUp board =>
      rw [step, withStream]
      cases s.manager.boards[board]? <;> exact hs
    | _ => exact hs

theorem settling_through (hs : s.Settling index) {steps : List (Network × Operation τ)}
    (hsettles : .settles index ∉ steps.map Prod.snd)
    (hdrop : .dropSensor index ∉ steps.map Prod.snd) : (s.through steps).Settling index := by
  refine history_induction (P := fun t _ => t.Settling index) (h := []) steps ?_ hs
  intro t _ net operation hop ht
  have hmem : operation ∈ steps.map Prod.snd := List.mem_map_of_mem (f := Prod.snd) hop
  refine settling_step net ht ?_ ?_
  · rintro rfl
    exact hsettles hmem
  · rintro rfl
    exact hdrop hmem

end Session
end WrenchLink

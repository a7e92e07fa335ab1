/-
A sensor's sample is the latest broadcast from its board's address.

From its attachment on, and until it is dropped or its handler is removed by its token, a
sensor hears every datagram from its board's address and no other.  What it then holds can
be read off the history since its attachment: `History.latestSample`.

Other sensors and observers may come and go meanwhile, and a calibration may be under way.
Dropping a sensor takes out its own handler and no other.
-/
import WrenchLink.Proofs.Sensor.Sample
import WrenchLink.Proofs.Session.Attachment
import WrenchLink.Proofs.Session.Demultiplexing
import WrenchLink.Proofs.Session.Settling

namespace WrenchLink
namespace History

variable {η : Type}

def broadcasts (address : Address) (h : History η) : List Sample :=
  h.receptions.filterMap fun d =>
    if d.sender = address then Sample.broadcastIn? d.bytes else none

/-- The last of them, or zero if there was none. -/
def latestSample (address : Address) (h : History η) : Sample :=
  (h.broadcasts address).getLast?.getD Sample.zero

theorem latestSample_append_of_no_receptions {h later : History η}
    (hnone : later.receptions = []) (address : Address) :
    latestSample address (h ++ later) = h.latestSample address := by
  have hreceptions : receptions (h ++ later) = h.receptions := by
    rw [receptions, List.filterMap_append, show later.filterMap _ = [] from hnone, List.append_nil,
      receptions]
  rw [latestSample, broadcasts, hreceptions, latestSample, broadcasts]

theorem latestSample_concat_received (h : History η) (d : Datagram) (address : Address) :
    latestSample address (h ++ [.received d]) =
      if d.sender = address then
        (Sample.broadcastIn? d.bytes).getD (h.latestSample address)
      else h.latestSample address := by
  rw [latestSample, broadcasts, h.receptions_concat, List.filterMap_append, List.getLast?_append]
  show (((if d.sender = address then Sample.broadcastIn? d.bytes else none).toList.getLast?).or
    _).getD _ = _
  by_cases hsender : d.sender = address
  · rw [if_pos hsender, if_pos hsender]
    cases Sample.broadcastIn? d.bytes <;> rfl
  · rw [if_neg hsender, if_neg hsender]
    rfl

end History

namespace Session

variable {τ : Type} {s s' : Session τ}

theorem receptions_occurrences (s : Session τ) {operation : Operation τ}
    (hreceive : operation ≠ .receive) (hpolls : operation.polls = false) :
    History.receptions (s.occurrences operation) = [] := by
  cases operation with
  | receive => exact absurd rfl hreceive
  | loopCatchesUp | stopReceiving => cases hpolls
  | addBoard | install | attachSensor | remove | datagramArrives =>
    rw [occurrences]
    split <;> rfl
  | dropSensor =>
    rw [occurrences]
    split
    · split <;> rfl
    · rfl
  | _ => rfl

/-! ## Who hears a datagram -/

theorem mem_reactions_iff {d : Datagram} {handler : Callback τ} {bytes : Bytes} :
    .datagram handler bytes ∈ s.manager.reactions d ↔
      bytes = d.bytes.take packetCapacity ∧
        ∃ i r token, s.audience? i = some (d.sender, r) ∧ (token, handler) ∈ r.installed := by
  rw [Manager.reactions, List.mem_append]
  constructor
  · rintro (h | h)
    · obtain ⟨b, hb, h⟩ := List.mem_flatMap.mp h
      obtain ⟨hmem, hsender⟩ := List.mem_filter.mp hb
      obtain ⟨i, hi⟩ := List.mem_iff_getElem?.mp hmem
      obtain ⟨g, hg, heq⟩ := List.mem_map.mp h
      obtain ⟨entry, hentry, rfl⟩ := List.mem_map.mp hg
      cases heq
      refine ⟨rfl, i, b.registry, entry.1, ?_, hentry⟩
      have hi : s.manager.boards[i]? = some b := hi
      rw [audience?, hi, Option.map_some, Board.audience, of_decide_eq_true hsender]
    · obtain ⟨i, -, h⟩ := List.mem_flatMap.mp h
      rw [Manager.notify] at h
      split at h
      · cases List.mem_singleton.mp h
      · cases h
  · rintro ⟨rfl, i, r, token, haudience, hentry⟩
    obtain ⟨b, hb, heq⟩ := Option.map_eq_some_iff.mp haudience
    obtain ⟨hsender, hregistry⟩ := Prod.mk.inj heq
    refine Or.inl (List.mem_flatMap.mpr ⟨b, ?_, ?_⟩)
    · exact List.mem_filter.mpr ⟨List.mem_of_getElem? hb, decide_eq_true hsender⟩
    · rw [← hregistry] at hentry
      exact List.mem_map.mpr ⟨handler, List.mem_map.mpr ⟨_, hentry, rfl⟩, rfl⟩

theorem foldl_keep_of_fixed {j : Nat} {sample : Sample} {events : List (Event (Callback τ))}
    (h : ∀ e ∈ events, keep j sample e = sample) : events.foldl (keep j) sample = sample := by
  induction events with
  | nil => rfl
  | cons e rest ih =>
    rw [List.foldl_cons, h e List.mem_cons_self]
    exact ih fun x hx => h x (List.mem_cons_of_mem _ hx)

theorem keep_eq_or {j : Nat} {bytes : Bytes} {e : Event (Callback τ)}
    (hsame : ∀ other, e = .datagram (.sensor j) other → other = bytes) (x : Sample) :
    keep j x e = x ∨ keep j x e = (Sample.ofDatagram? bytes).getD x := by
  match e with
  | .silent _ _ | .datagram (.observer _) _ => exact Or.inl rfl
  | .datagram (.sensor index) other =>
    rw [keep]
    by_cases hindex : index = j
    · subst hindex
      rw [if_pos rfl, hsame other rfl]
      exact Or.inr rfl
    · rw [if_neg hindex]
      exact Or.inl rfl

/-- Hearing the same datagram twice is no different from hearing it once. -/
theorem foldl_keep_of_mem {j : Nat} {sample : Sample} {bytes : Bytes}
    {events : List (Event (Callback τ))} (hmem : .datagram (.sensor j) bytes ∈ events)
    (hsame : ∀ other, .datagram (.sensor j) other ∈ events → other = bytes) :
    events.foldl (keep j) sample = (Sample.ofDatagram? bytes).getD sample := by
  have htwice : ∀ x : Sample, (Sample.ofDatagram? bytes).getD ((Sample.ofDatagram? bytes).getD x) =
      (Sample.ofDatagram? bytes).getD x := by
    intro x
    cases Sample.ofDatagram? bytes <;> rfl
  have hkeep : ∀ e ∈ events, ∀ x,
      keep j x e = x ∨ keep j x e = (Sample.ofDatagram? bytes).getD x := by
    intro e he
    exact keep_eq_or fun other h => hsame other (h ▸ he)
  clear hsame
  induction events generalizing sample with
  | nil => cases hmem
  | cons e rest ih =>
    have hrest : ∀ e ∈ rest, ∀ x, _ := fun e he => hkeep e (List.mem_cons_of_mem _ he)
    rw [List.foldl_cons]
    rcases List.mem_cons.mp hmem with rfl | hlater
    · have hfirst : keep (τ := τ) j sample (.datagram (.sensor j) bytes) =
          (Sample.ofDatagram? bytes).getD sample := if_pos rfl
      rw [hfirst]
      refine foldl_keep_of_fixed fun e he => ?_
      rcases hrest e he ((Sample.ofDatagram? bytes).getD sample) with h | h
      · exact h
      · rw [h, htwice]
    · rw [ih hlater hrest]
      rcases hkeep e List.mem_cons_self sample with h | h
      · rw [h]
      · rw [h, htwice]

/-! ## A sensor that stays -/

/-- The sensor's handler is on its board, which has the address. -/
structure Listens (s : Session τ) (index board token : Nat) (address : Address)
    (sample : Sample) : Prop where
  holding : s.holding? index = some (board, token, sample)
  installed : ∃ r, s.audience? board = some (address, r) ∧ (token, .sensor index) ∈ r.installed

variable {index board token : Nat} {address : Address} {sample : Sample}

theorem Listens.of_audienceWith (hl : s.Listens index board token address sample) {b : Nat}
    {f : Registry (Callback τ) → Registry (Callback τ)}
    (haudience : ∀ i, s'.audience? i = s.audienceWith b f i)
    (hholding : s'.holding? index = s.holding? index)
    (hkeeps : b = board → ∀ r, (token, .sensor index) ∈ r.installed →
      (token, .sensor index) ∈ (f r).installed) : s'.Listens index board token address sample := by
  obtain ⟨r, hr, hmem⟩ := hl.installed
  refine ⟨hholding.trans hl.holding, _, (haudience board).trans (audienceWith_of_eq_some f hr), ?_⟩
  split
  · rename_i hb
    exact hkeeps hb.symm r hmem
  · exact hmem

/-- Nothing but the sensor's end, the removal of its handler and a datagram matter to it. -/
theorem Listens.of_shift (hs : s.Attached) (hl : s.Listens index board token address sample)
    {operation : Operation τ} (hshift : Shift s s' operation)
    (hdrop : operation ≠ .dropSensor index) (hremove : operation ≠ .remove board token)
    (hreceive : operation ≠ .receive) : s'.Listens index board token address sample := by
  cases hshift with
  | still haudience hholding =>
    obtain ⟨r, hr, hmem⟩ := hl.installed
    exact ⟨(hholding index).trans hl.holding, r, (haudience board).trans hr, hmem⟩
  | boardAdded hfresh haudience hholding =>
    obtain ⟨r, hr, hmem⟩ := hl.installed
    refine ⟨(hholding index).trans hl.holding, r, ?_, hmem⟩
    rw [haudience, if_neg, hr]
    rintro rfl
    rw [hfresh] at hr
    cases hr
  | installed haudience hholding =>
    exact hl.of_audienceWith haudience (hholding index)
      fun _ r hmem => List.mem_append_left _ hmem
  | removed haudience hholding =>
    refine hl.of_audienceWith haudience (hholding index) fun hb r hmem => ?_
    refine Registry.mem_remove.mpr ⟨hmem, ?_⟩
    rintro rfl
    exact hremove (by rw [hb])
  | attached hfresh hboard haudience hholding =>
    refine hl.of_audienceWith haudience ?_ fun _ r hmem => List.mem_append_left _ hmem
    rw [hholding, if_neg]
    rintro rfl
    rw [hl.holding] at hfresh
    cases hfresh
  | @dropped other b t x hsensor haudience hholding =>
    have hother : index ≠ other := fun h => hdrop (by rw [h])
    refine hl.of_audienceWith haudience ((hholding index).trans (if_neg hother)) ?_
    rintro rfl r hmem
    refine Registry.mem_remove.mpr ⟨hmem, ?_⟩
    rintro rfl
    exact hother (hs.distinct index other _ _ _ _ hl.holding hsensor)
  | received => exact absurd rfl hreceive

theorem Listens.receive (net : Network) (hs : s.Attached)
    (hl : s.Listens index board token address sample) {d : Datagram} {rest : List Datagram}
    (hqueued : s.manager.queued = d :: rest) :
    (s.step net .receive).session.Listens index board token address
      (if d.sender = address then (Sample.broadcastIn? d.bytes).getD sample else sample) := by
  obtain ⟨r, hr, hmem⟩ := hl.installed
  have hbroadcast : Sample.ofDatagram? (d.bytes.take packetCapacity) =
      Sample.broadcastIn? d.bytes := Sample.ofDatagram?_eq _
  have hsample : (s.manager.reactions d).foldl (keep index) sample =
      if d.sender = address then (Sample.broadcastIn? d.bytes).getD sample else sample := by
    by_cases hsender : d.sender = address
    · subst hsender
      rw [if_pos rfl, ← hbroadcast]
      exact foldl_keep_of_mem (mem_reactions_iff.mpr ⟨rfl, board, r, token, hr, hmem⟩)
        fun other h => (mem_reactions_iff.mp h).1
    · rw [if_neg hsender]
      refine foldl_keep_of_fixed fun e he => ?_
      match e with
      | .silent _ _ | .datagram (.observer _) _ => rfl
      | .datagram (.sensor j) bytes =>
        refine if_neg ?_
        rintro rfl
        -- The handler that was called is the sensor's own, so it is on the sensor's board.
        obtain ⟨-, i, q, t, hq, hentry⟩ := mem_reactions_iff.mp he
        obtain ⟨x, hx⟩ := hs.owned i d.sender q t j hq hentry
        rw [hl.holding] at hx
        cases hx
        rw [hr] at hq
        cases hq
        exact hsender rfl
  refine ⟨?_, r, (audience?_receive net s board).trans hr, hmem⟩
  rw [holding?_receive_of_queued net hqueued, hl.holding]
  exact congrArg (fun x => some (board, token, x)) hsample

/-- A session and its history since a sensor was attached, of which the sensor has heard. -/
structure Sampling (s : Session τ) (h : History (Callback τ)) (index board token : Nat)
    (address : Address) : Prop where
  attached : s.Attached
  listens : s.Listens index board token address (h.latestSample address)

namespace Sampling

variable {h : History (Callback τ)}

theorem receive (net : Network) (hs : s.Sampling h index board token address) :
    (s.step net .receive).session.Sampling (h ++ s.occurrences .receive) index board token
      address := by
  refine ⟨attached_step net hs.attached .receive, ?_⟩
  rw [occurrences, Manager.polled]
  cases hqueued : s.manager.queued with
  | cons d rest =>
    rw [h.latestSample_concat_received]
    exact hs.listens.receive net hs.attached hqueued
  | nil =>
    obtain ⟨r, hr, hmem⟩ := hs.listens.installed
    have hlatest : History.latestSample address
        (h ++ if s.manager.isBound then [.timePassed] else []) = h.latestSample address := by
      refine History.latestSample_append_of_no_receptions ?_ address
      split <;> rfl
    rw [hlatest]
    exact ⟨(holding?_receive_of_queued_nil net hqueued index).trans hs.listens.holding, r,
      (audience?_receive net s board).trans hr, hmem⟩

theorem step (net : Network) (hs : s.Sampling h index board token address)
    {operation : Operation τ} (hdrop : operation ≠ .dropSensor index)
    (hremove : operation ≠ .remove board token) :
    (s.step net operation).session.Sampling (h ++ s.occurrences operation) index board token
      address := by
  cases hpolls : operation.polls with
  | true =>
    exact polls_induction (P := fun s h => s.Sampling h index board token address) net hpolls
      (fun t _ _ _ ht => ⟨ht.attached.of_still (fun _ => rfl) fun _ => rfl, ht.listens.holding,
        ht.listens.installed⟩)
      (fun _ _ ht => ht.receive net) hs
  | false =>
    by_cases hreceive : operation = .receive
    · subst hreceive
      exact hs.receive net
    · refine ⟨attached_step net hs.attached operation, ?_⟩
      rw [History.latestSample_append_of_no_receptions
        (s.receptions_occurrences hreceive hpolls)]
      exact hs.listens.of_shift hs.attached (shift_step net s hpolls) hdrop hremove hreceive

theorem through (hs : s.Sampling h index board token address)
    {later : List (Network × Operation τ)}
    (hdrop : .dropSensor index ∉ later.map Prod.snd)
    (hremove : .remove board token ∉ later.map Prod.snd) :
    (s.through later).Sampling (h ++ s.history later) index board token address := by
  refine history_induction (P := fun s h => s.Sampling h index board token address) later ?_ hs
  intro t k net operation hop ht
  have hmem : operation ∈ later.map Prod.snd := List.mem_map_of_mem (f := Prod.snd) hop
  refine ht.step net ?_ ?_
  · rintro rfl
    exact hdrop hmem
  · rintro rfl
    exact hremove hmem

end Sampling

/-- A sensor that was just attached has a handler of its own and holds zero. -/
theorem sampling_attachSensor (net : Network) (hs : s.Attached)
    (hattach : (s.step net (.attachSensor board)).outcome = .ok (.number index)) :
    ∃ token address, s.occurrences (.attachSensor board) =
        [.handlerInstalled board token (.sensor index)] ∧
      s.manager.boards[board]?.map (·.address) = some address ∧
      (s.step net (.attachSensor board)).session.Sampling [] index board token address := by
  have hattached := attached_step net hs (.attachSensor board)
  rw [Session.step, attachSensor] at hattach hattached
  rw [Session.step, attachSensor, occurrences]
  rcases hinstall : s.manager.install board (.sensor s.sensors.length) with ⟨fault | token, m⟩ <;>
    rw [hinstall] at hattach hattached <;> cases hattach
  obtain ⟨address, r, hboard, htoken, haudience, hholding⟩ := attached_of_install hinstall
  obtain ⟨b, hb, hr⟩ := Option.map_eq_some_iff.mp hboard
  refine ⟨token, address, rfl, ?_, hattached, (hholding _).trans (if_pos rfl), _,
    (haudience board).trans (audienceWith_of_eq_some _ hboard), ?_⟩
  · rw [hb]
    exact congrArg (fun a => some a.1) hr
  · rw [if_pos rfl, htoken]
    exact List.mem_append_right _ List.mem_cons_self

/-! ## The sample and the drop -/

theorem Sampling.exists_sensor {h : History (Callback τ)}
    (hs : s.Sampling h index board token address) :
    ∃ x, s.sensor? index = some x ∧ x.board = board ∧ x.token = token ∧
      x.sample = h.latestSample address := by
  obtain ⟨x, hx, heq⟩ := Option.map_eq_some_iff.mp hs.listens.holding
  obtain ⟨hboard, hrest⟩ := Prod.mk.inj heq
  obtain ⟨htoken, hsample⟩ := Prod.mk.inj hrest
  exact ⟨x, hx, hboard, htoken, hsample⟩

/-- Dropping the sensor takes out its handler and leaves all others. -/
theorem Sampling.dropSensor {h : History (Callback τ)}
    (hs : s.Sampling h index board token address) :
    ∃ b front back, s.manager.boards[board]? = some b ∧
      b.registry.installed = front ++ (token, .sensor index) :: back ∧
      (∀ entry ∈ front ++ back, entry.2 ≠ .sensor index) ∧
      s.dropSensor index =
        ⟨s.manager.setBoard board
          { b with registry := { b.registry with installed := front ++ back } },
          s.sensors.set index none, s.inbox⟩ := by
  obtain ⟨x, hx, rfl, rfl, -⟩ := hs.exists_sensor
  obtain ⟨r, haudience, hmem⟩ := hs.listens.installed
  obtain ⟨b, hb, heq⟩ := Option.map_eq_some_iff.mp haudience
  obtain ⟨-, rfl⟩ := Prod.mk.inj heq
  obtain ⟨front, back, hsplit⟩ := List.append_of_mem hmem
  have hordered := hs.attached.ordered x.board address b.registry haudience
  refine ⟨b, front, back, hb, hsplit, ?_, ?_⟩
  · intro entry hentry hsensor
    have hinstalled : (entry.1, .sensor index) ∈ b.registry.installed := by
      rw [hsplit, ← hsensor]
      rcases List.mem_append.mp hentry with hentry | hentry
      · exact List.mem_append_left _ hentry
      · exact List.mem_append_right _ (List.mem_cons_of_mem _ hentry)
    obtain ⟨y, hy⟩ := hs.attached.owned x.board address b.registry entry.1 index haudience
      hinstalled
    rw [hs.listens.holding, Option.some.injEq] at hy
    obtain ⟨-, hrest⟩ := Prod.mk.inj hy
    exact hordered.ne_of_mem hsplit entry hentry (Prod.mk.inj hrest).1.symm
  · simp only [Session.dropSensor, hx, Manager.remove_of_board hb, ← hordered.remove_eq hsplit]
    rfl

/-- At any later point of a run, a sensor that was neither dropped nor had its handler removed
by its token holds the latest broadcast from its board's address.  Readings are taken from that
sample.  A calibration is judged by it as soon as the board has settled, which it does at once or,
whatever happens meanwhile, when its time is over.  The drop takes out the sensor's one handler. -/
theorem sample_is_latest_broadcast (interface : Endpoint) (earlier : List (Network × Operation τ))
    (net : Network) {board index : Nat}
    (hattach : (((opened interface).through earlier).step net (.attachSensor board)).outcome =
      .ok (.number index)) :
    let before := (opened interface).through earlier
    let attached := (before.step net (.attachSensor board)).session
    ∃ token address,
      before.occurrences (.attachSensor board) =
        [.handlerInstalled board token (.sensor index)] ∧
      ((opened interface).history earlier).addresses[board]? = some address ∧
      ∀ later : List (Network × Operation τ),
        .dropSensor index ∉ later.map Prod.snd → .remove board token ∉ later.map Prod.snd →
        let s := attached.through later
        let latest := (attached.history later).latestSample address
        ∃ x b front back,
          s.sensor? index = some x ∧
          x.board = board ∧
          x.sample = latest ∧
          (∀ net' c stream count, s.manager.Connected board c stream →
            net'.takes .tcp c.tcp.peer [4, 0, 0x31, 0] = .ok count →
            let calibrating := s.step net' (.request index .calibrateOffsets)
            (x.settleTime = 0 → calibrating.outcome = x.judgedBy latest) ∧
            (x.settleTime ≠ 0 → calibrating.outcome = .ok .waiting ∧
              ∀ meanwhile, .settles index ∉ meanwhile.map Prod.snd →
                .dropSensor index ∉ meanwhile.map Prod.snd →
                (calibrating.session.through meanwhile).Settling index)) ∧
          (x.settling = true → ∀ net',
            (s.step net' (.settles index)).outcome = x.judgedBy latest) ∧
          s.manager.boards[board]? = some b ∧
          b.registry.installed = front ++ (token, .sensor index) :: back ∧
          (∀ entry ∈ front ++ back, entry.2 ≠ .sensor index) ∧
          ∀ net', (s.step net' (.dropSensor index)).session =
            ⟨s.manager.setBoard board
              { b with registry := { b.registry with installed := front ++ back } },
              s.sensors.set index none, s.inbox⟩ := by
  intro before attached
  have hbefore : before.Attached := attached_through (attached_opened interface) earlier
  have hfollows := follows_through (τ := τ) interface earlier
  obtain ⟨token, address, hinstalled, haddress, hsampling⟩ :=
    sampling_attachSensor net hbefore hattach
  refine ⟨token, address, hinstalled, (hfollows.getElem?_addresses board).trans haddress, ?_⟩
  intro later hdrop hremove s latest
  have hs : s.Sampling (attached.history later) index board token address :=
    hsampling.through hdrop hremove
  obtain ⟨x, hx, hboard, -, hsample⟩ := hs.exists_sensor
  obtain ⟨b, front, back, hb, hsplit, hothers, hdropped⟩ := hs.dropSensor
  have hlatest : x.sample = latest := hsample
  refine ⟨x, b, front, back, hx, hboard, hlatest, ?_, ?_, hb, hsplit, hothers, fun _ => hdropped⟩
  · intro net' c stream count hconnected htaken calibrating
    rw [← hboard] at hconnected
    have houtcome : calibrating.outcome = _ := outcome_calibrateOffsets hx hconnected htaken
    refine ⟨fun htime => ?_, fun htime => ⟨?_, fun meanwhile => ?_⟩⟩
    · rw [houtcome, if_pos htime, hlatest]
    · rw [houtcome, if_neg htime]
    · exact settling_through (settling_of_calibrateOffsets hx hconnected htaken htime)
  · intro hsettling net'
    rw [outcome_settles hx hsettling, hlatest]

/-- A broadcast's frame with every byte of its values the same, and its header's size zero. -/
def sampleBroadcast (byte : UInt8) : Bytes := [0, 0, 0x70, 0x01] ++ List.replicate 48 byte

/-- Another sensor on the board at the same address, and nothing received yet. -/
def attachingRun : List (Network × Operation Nat) := within sampleNetwork
  [.addBoard (sampleBoard 1), .addBoard (sampleBoard 2), .addBoard (sampleBoard 1), .connectAll,
    .install 0 10, .attachSensor 0, .attachSensor 2]

/-- Broadcasts of both addresses, among them a long one, with frames that are none, while
handlers come and go around the third sensor's and that sensor lets its board settle. -/
def broadcastingRun : List (Network × Operation Nat) := within sampleNetwork
  [.datagramArrives ⟨⟨192, 168, 1, 1⟩, sampleBroadcast 1⟩, .receive, .dropSensor 0,
    .request 2 .calibrateOffsets, .attachSensor 0,
    .datagramArrives ⟨⟨192, 168, 1, 1⟩, sampleBroadcast 2 ++ List.replicate 300 9⟩,
    .datagramArrives ⟨⟨192, 168, 1, 2⟩, sampleBroadcast 3⟩,
    .datagramArrives ⟨⟨192, 168, 1, 1⟩, (sampleBroadcast 4).take 51⟩, .remove 0 0,
    .datagramArrives ⟨⟨192, 168, 1, 1⟩, [0, 0, 0x60, 0x01] ++ List.replicate 48 5⟩,
    .loopCatchesUp, .boardWrites 0 [1, 2, 3, 4], .request 1 .getFault]

theorem sample_is_latest_broadcast_broadcastingRun :
    ∃ before s : Session Nat, ∃ x,
      before = (opened sampleInterface).through attachingRun ∧
      s = (before.step sampleNetwork (.attachSensor 0)).session.through broadcastingRun ∧
      s.sensor? 2 = some x ∧
      x.sample.raw.fx = ⟨0x02020202⟩ ∧
      (s.step sampleNetwork (.settles 2)).outcome = .ok (.answer .done) := by
  have hattach : (((opened sampleInterface).through attachingRun).step sampleNetwork
      (.attachSensor 0)).outcome = .ok (.number 2) := rfl
  obtain ⟨token, address, hinstalled, haddress, hlater⟩ :=
    sample_is_latest_broadcast sampleInterface attachingRun sampleNetwork hattach
  have hinstall : occurrences (τ := Nat) ((opened sampleInterface).through attachingRun)
      (.attachSensor 0) = [.handlerInstalled 0 2 (.sensor 2)] := by decide +kernel
  have haddresses : ((opened sampleInterface).history attachingRun).addresses[0]? =
      some ⟨192, 168, 1, 1⟩ := by decide +kernel
  rw [hinstall] at hinstalled
  rw [haddresses] at haddress
  cases hinstalled
  cases haddress
  have hdrop : Operation.dropSensor 2 ∉ broadcastingRun.map Prod.snd := by
    simp [broadcastingRun, within, -List.reduceReplicate]
  have hremove : Operation.remove 0 2 ∉ broadcastingRun.map Prod.snd := by
    simp [broadcastingRun, within, -List.reduceReplicate]
  obtain ⟨x, b, -, -, hx, -, hsample, -, hsettled, -⟩ := hlater broadcastingRun hdrop hremove
  have hlatest : History.latestSample ⟨192, 168, 1, 1⟩
      ((((opened sampleInterface).through attachingRun).step sampleNetwork
        (.attachSensor 0)).session.history broadcastingRun) =
      Sample.inFrame (sampleBroadcast 2) := by decide +kernel
  rw [hlatest] at hsample hsettled
  generalize hs : (((opened sampleInterface).through attachingRun).step sampleNetwork
    (.attachSensor 0)).session.through broadcastingRun = s at hx hsettled
  have hstate : (s.sensor? 2).map (fun x => (x.limits, x.settling)) =
      some (Limits.default, true) := by
    rw [← hs]
    decide +kernel
  rw [hx, Option.map_some, Option.some.injEq, Prod.mk.injEq] at hstate
  obtain ⟨hlimits, hsettling⟩ := hstate
  have haccepts : x.judgedBy (Sample.inFrame (sampleBroadcast 2)) = .ok (.answer .done) := by
    rw [Sensor.judgedBy, hlimits]
    exact if_pos (by decide +kernel)
  have hfx : x.sample.raw.fx = ⟨0x02020202⟩ := by
    rw [hsample]
    decide +kernel
  exact ⟨_, s, x, rfl, hs.symm, hx, hfx, (hsettled hsettling sampleNetwork).trans haccepts⟩

end Session
end WrenchLink

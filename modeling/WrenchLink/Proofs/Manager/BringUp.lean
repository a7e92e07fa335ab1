/-
Connecting a configured manager.

Whether a board can be connected is up to its own channel and the network (`connectFault?`), so
connecting all of them opens those in front of the first that cannot and leaves the rest as they
are: `connectBoards_eq`.  For a valid configuration in a network that has its interface and its
boards, only one thing is left that can go wrong, which validation lets through: no socket takes
a bound of zero on the wait for a reply.  `connectAll_of_valid` says when it does.
-/
import Mathlib.Data.List.TakeWhile
import WrenchLink.Proofs.Manager.Registration
import WrenchLink.Proofs.Sensor.Mismatch

namespace WrenchLink

variable {η : Type}

namespace Board

/-- What keeps the board from being connected, if anything does. -/
def connectFault? (net : Network) (b : Board η) : Option Fault :=
  if !b.tcpService then none
  else if !net.accepting b.tcp.peer then some (.transport (.connectFailed b.tcp.peer))
  else if b.tcp.readTimeout = some 0 then some (.transport .readTimeoutRefused)
  else none

def connects (net : Network) (b : Board η) : Bool := (b.connectFault? net).isNone

def opened (b : Board η) : Board η :=
  { b with
    tcp := if b.tcpService then { b.tcp with stream := some {} } else b.tcp
    udp := if b.udpService then b.udp.adoptSocket else b.udp }

theorem connects_iff {net : Network} {b : Board η} :
    b.connects net = true ↔ b.connectFault? net = none :=
  Option.isNone_iff_eq_none

theorem connect_eq (net : Network) (b : Board η) :
    b.connect net =
      (b.connectFault? net).elim (.ok (), b.opened) fun fault => (.error fault, b) := by
  obtain ⟨id, address, tcpService, udpService, tcp, udp, registry⟩ := b
  cases tcpService with
  | false => rfl
  | true =>
    simp only [connect, openStream, connectFault?, opened, TcpChannel.connect, if_true,
      Bool.not_true, Bool.false_eq_true, if_false]
    by_cases hpeer : net.accepting tcp.peer = true
    · by_cases hzero : tcp.readTimeout = some 0 <;> simp [hpeer, hzero]
    · simp [hpeer]

theorem connectFault?_of_accepting {net : Network} {b : Board η}
    (h : b.tcpService = true → net.accepting b.tcp.peer = true) :
    b.connectFault? net =
      if b.tcpService = true ∧ b.tcp.readTimeout = some 0 then
        some (.transport .readTimeoutRefused) else none := by
  cases htcp : b.tcpService with
  | false => simp [connectFault?, htcp]
  | true => simp [connectFault?, htcp, h htcp]

end Board

namespace Manager

theorem connectBoards_eq (net : Network) (boards : List (Board η)) :
    connectBoards net boards =
      ((boards.findSome? (·.connectFault? net)).elim (.ok ()) .error,
        (boards.takeWhile (·.connects net)).map Board.opened ++
          boards.dropWhile (·.connects net)) := by
  induction boards with
  | nil => rfl
  | cons b rest ih =>
    cases hb : b.connectFault? net with
    | none => simp [connectBoards, Board.connect_eq, Board.connects, hb, ih]
    | some fault => simp [connectBoards, Board.connect_eq, Board.connects, hb]

theorem connectBoards_of_no_fault {net : Network} {boards : List (Board η)}
    (h : ∀ b ∈ boards, b.connectFault? net = none) :
    connectBoards net boards = (.ok (), boards.map Board.opened) := by
  have hconnects : ∀ b ∈ boards, b.connects net = true :=
    fun b hb => Board.connects_iff.mpr (h b hb)
  rw [connectBoards_eq, List.takeWhile_eq_self_iff.mpr hconnects,
    List.dropWhile_eq_nil_iff.mpr hconnects, List.findSome?_eq_none_iff.mpr h, List.append_nil]
  rfl

theorem connectBoards_of_fault {net : Network} {boards : List (Board η)} {fault : Fault}
    (h : ∀ b ∈ boards, b.connectFault? net = if b.tcpService = true then some fault else none)
    (hsome : ∃ b ∈ boards, b.tcpService = true) :
    (connectBoards net boards).1 = .error fault := by
  rw [connectBoards_eq]
  cases hfirst : boards.findSome? (·.connectFault? net) with
  | none =>
    obtain ⟨b, hb, htcp⟩ := hsome
    have hnone := List.findSome?_eq_none_iff.mp hfirst b hb
    rw [h b hb, if_pos htcp] at hnone
    cases hnone
  | some first =>
    obtain ⟨b, hb, hfault⟩ := List.exists_of_findSome?_eq_some hfirst
    rw [h b hb, Option.ite_none_right_eq_some] at hfault
    rw [Option.elim_some, Option.some.inj hfault.2]

/-- Boards that cannot be connected by TCP get no stream, whatever becomes of the others. -/
theorem stream_of_mem_connectBoards {net : Network} {boards : List (Board η)}
    (hclosed : ∀ b ∈ boards, b.tcp.stream = none)
    (h : ∀ b ∈ boards, b.tcpService = true → b.connectFault? net ≠ none) :
    ∀ b ∈ (connectBoards net boards).2, b.tcp.stream = none := by
  intro b hb
  rw [connectBoards_eq, List.mem_append, List.mem_map] at hb
  obtain ⟨old, hold, rfl⟩ | hb := hb
  · have hmem := (List.takeWhile_prefix _).subset hold
    have hfault := Board.connects_iff.mp (List.mem_takeWhile_imp hold)
    have hservice : old.tcpService = false :=
      Bool.eq_false_iff.mpr fun htcp => h old hmem htcp hfault
    simpa [Board.opened, hservice] using hclosed old hmem
  · exact hclosed b ((List.dropWhile_suffix _).subset hb)

/-- The interface is open, and each board of the configurations can be talked to through the
services that it declares: requests reach it through a new stream, and datagrams are handed to
whatever network there is. -/
structure Ready (m : Manager η) (configs : List BoardConfig) : Prop where
  bound : m.isBound = true
  count : m.boards.length = configs.length
  tcp : ∀ i c, configs[i]? = some c → c.tcpService = true →
    ∃ b address, c.ip = .ok address ∧ b.tcp.peer = ⟨address, c.tcpPort⟩ ∧ m.Connected i b {}
  udp : ∀ i c, configs[i]? = some c → c.udpService = true → ∃ address, c.ip = .ok address ∧
    ∀ net packet, (m.sendUdp net i packet).1 =
      (net.send .udp ⟨address, c.udpPort⟩ packet.bytes).1

/-- With the socket at hand, only the network decides whether a datagram is sent. -/
theorem outcome_sendUdp_of_hasSocket {m : Manager η} {id : Nat} {b : Board η}
    (h : m.boards[id]? = some b) (hservice : b.udpService = true)
    (hsocket : b.udp.hasSocket = true) (net : Network) (packet : Packet) :
    (m.sendUdp net id packet).1 = (net.send .udp b.udp.destination packet.bytes).1 := by
  rw [sendUdp, withBoard_of_board h]
  simp only [Board.sendUdp, Board.require, hservice, UdpChannel.send, hsocket, if_true,
    Bool.not_true, Bool.false_eq_true, if_false]
  rcases net.send .udp b.udp.destination packet.bytes with ⟨_ | _, taken⟩ <;> rfl

theorem Registers.ready {m : Manager η} {configs : List BoardConfig} (h : m.Registers configs)
    (hbound : m.isBound = true) :
    ({ m with boards := m.boards.map Board.opened } : Manager η).Ready configs := by
  have hopened : ∀ i c, configs[i]? = some c → ∃ address, c.ip = .ok address ∧
      (m.boards.map Board.opened)[i]? =
        some (Board.new i (c.specAt address) m.tcpReadTimeout).opened := by
    intro i c hc
    obtain ⟨address, haddress, hboard⟩ := h.board i c hc
    exact ⟨address, haddress, by rw [List.getElem?_map, hboard, Option.map_some]⟩
  refine ⟨hbound, by simpa using h.count, fun i c hc htcp => ?_, fun i c hc hudp => ?_⟩
  · obtain ⟨address, haddress, hboard⟩ := hopened i c hc
    refine ⟨_, address, haddress, ?_, hboard, htcp, ?_⟩
    · simp [Board.opened, Board.new, BoardConfig.specAt, htcp]
    · simp [Board.opened, Board.new, BoardConfig.specAt, htcp]
  · obtain ⟨address, haddress, hboard⟩ := hopened i c hc
    refine ⟨address, haddress, fun net packet => ?_⟩
    rw [outcome_sendUdp_of_hasSocket hboard hudp]
    · simp [Board.opened, Board.new, BoardConfig.specAt, hudp, UdpChannel.adoptSocket]
    · simp [Board.opened, Board.new, BoardConfig.specAt, hudp, UdpChannel.adoptSocket]

def opened (m : Manager η) : Manager η :=
  { m with socket := some { interface := m.interface, readTimeout := m.timeout } }

theorem connectAll_of_unbound {net : Network} {m : Manager η} (hsocket : m.socket = none)
    (hbindable : net.bindable m.interface = true) (hpositive : m.timeout ≠ 0) :
    m.connectAll net = ((connectBoards net m.boards).1,
      { m.opened with boards := (connectBoards net m.boards).2 }) := by
  have hbind : m.bind net = (.ok (), m.opened) := by
    simp [bind, opened, isBound, hsocket, hbindable, hpositive]
  simp only [connectAll, hbind]
  rfl

end Manager

/-- The network has the configured interface, and somebody who accepts connections wherever a
board is to be connected. -/
structure Network.Hosts (net : Network) (c : ManagerConfig) : Prop where
  bindable : ∀ address, c.localIp = .ok address → net.bindable ⟨address, c.port⟩ = true
  accepting : ∀ b ∈ c.boards, b.tcpService = true → ∀ address, b.ip = .ok address →
    net.accepting ⟨address, b.tcpPort⟩ = true

namespace Manager

theorem Registers.connectFault?_eq {m : Manager η} {c : ManagerConfig}
    (h : m.Registers c.boards) {net : Network} (hnet : net.Hosts c) {b : Board η}
    (hb : b ∈ m.boards) :
    b.connectFault? net =
      if b.tcpService = true ∧ m.tcpReadTimeout = some 0 then
        some (.transport .readTimeoutRefused) else none := by
  obtain ⟨i, d, address, hd, haddress, rfl⟩ := h.exists_of_mem hb
  exact Board.connectFault?_of_accepting fun hservice =>
    hnet.accepting d (List.mem_of_getElem? hd) hservice address haddress

/-- A valid configuration whose network is there gives a manager.  Connecting it succeeds, with
everything that is configured ready for use, exactly when the wait for a reply is not bounded by
zero or no board is to be connected by TCP.  Otherwise it fails, and no board is connected. -/
theorem connectAll_of_valid {c : ManagerConfig} (hvalid : c.validate = .ok ()) {net : Network}
    (hnet : net.Hosts c) :
    ∃ m : Manager η, ofConfig c = .ok m ∧
      (c.sensor.tcpReadTimeoutMs ≠ some 0 ∨ (∀ b ∈ c.boards, b.tcpService = false) →
        (m.connectAll net).1 = .ok () ∧ (m.connectAll net).2.Ready c.boards) ∧
      (c.sensor.tcpReadTimeoutMs = some 0 → (∃ b ∈ c.boards, b.tcpService = true) →
        (m.connectAll net).1 = .error (.transport .readTimeoutRefused) ∧
          ∀ b ∈ (m.connectAll net).2.boards, b.tcp.stream = none) := by
  obtain ⟨m, address, hm, haddress, hinterface, htimeout, hbound, hsocket, hregisters⟩ :=
    ofConfig_of_valid (η := η) hvalid
  obtain ⟨-, hpositive, -⟩ := c.validate_eq_ok_iff.mp hvalid
  have hzero : m.tcpReadTimeout = some 0 ↔ c.sensor.tcpReadTimeoutMs = some 0 := by
    rw [hbound]
    cases c.sensor.tcpReadTimeoutMs <;> simp [← UInt64.toNat_inj]
  have hbindable := hnet.bindable address haddress
  rw [← hinterface] at hbindable
  have hpositive : m.timeout ≠ 0 := by
    rw [htimeout]
    simpa [← UInt64.toNat_inj] using hpositive
  have hfault := fun b => hregisters.connectFault?_eq hnet (b := b)
  refine ⟨m, hm, ?_⟩
  rw [connectAll_of_unbound hsocket hbindable hpositive]
  constructor
  · intro hfree
    have hnone : ∀ b ∈ m.boards, b.connectFault? net = none := by
      intro b hb
      rw [hfault b hb, if_neg]
      rintro ⟨htcp, hbounded⟩
      obtain ⟨d, hd, hservice⟩ := hregisters.exists_tcpService_iff.mp ⟨b, hb, htcp⟩
      obtain hunbounded | hdatagrams := hfree
      · exact hunbounded (hzero.mp hbounded)
      · exact Bool.noConfusion ((hdatagrams d hd).symm.trans hservice)
    have hopened : m.opened.Registers c.boards := ⟨hregisters.count, hregisters.board⟩
    rw [connectBoards_of_no_fault hnone]
    exact ⟨rfl, hopened.ready rfl⟩
  · intro hbounded hsome
    simp only [hzero.mpr hbounded, and_true] at hfault
    refine ⟨connectBoards_of_fault hfault (hregisters.exists_tcpService_iff.mpr hsome), ?_⟩
    refine stream_of_mem_connectBoards (fun b hb => ?_) fun b hb htcp => ?_
    · obtain ⟨i, d, a, -, -, rfl⟩ := hregisters.exists_of_mem hb
      rfl
    · rw [hfault b hb, if_pos htcp]
      exact Option.some_ne_none _

theorem sampleNetwork_hosts (c : ManagerConfig) : Session.sampleNetwork.Hosts c where
  bindable := by
    intro _ _
    rfl
  accepting := by
    intro _ _ _ _ _
    rfl

/-- One board with both services and one for datagrams only. -/
def sampleConfig : ManagerConfig where
  localAddress := "192.168.1.100"
  boards := [{ address := "192.168.1.1" }, { address := "192.168.1.2", tcpService := false }]
  sensor := { tcpReadTimeoutMs := some 500 }

theorem connectAll_of_valid_sampleConfig :
    sampleConfig.validate = .ok () ∧ Session.sampleNetwork.Hosts sampleConfig ∧
      ∃ m : Manager Unit, ofConfig sampleConfig = .ok m ∧
        (m.connectAll Session.sampleNetwork).1 = .ok () ∧
        (m.connectAll Session.sampleNetwork).2.Ready sampleConfig.boards := by
  have hvalid : sampleConfig.validate = .ok () := by decide
  have hnet := sampleNetwork_hosts sampleConfig
  obtain ⟨m, hm, hready, -⟩ := connectAll_of_valid (η := Unit) hvalid hnet
  exact ⟨hvalid, hnet, m, hm, hready (Or.inl (by decide))⟩

/-- A bound of zero on the wait for replies is valid, and keeps the board from being connected. -/
theorem connectAll_zeroBound :
    let c : ManagerConfig :=
      { sampleConfig with sensor := { sampleConfig.sensor with tcpReadTimeoutMs := some 0 } }
    c.validate = .ok () ∧ Session.sampleNetwork.Hosts c ∧
      (ofConfig c : Except Fault (Manager Unit)).map (fun m =>
        (m.connectAll Session.sampleNetwork).1) = .ok (.error (.transport .readTimeoutRefused)) :=
  ⟨by decide, sampleNetwork_hosts _, by decide⟩

end Manager
end WrenchLink

/-
Datagrams reach the handlers they are for, each once and in order.

At any point of a run, what has arrived is what was received followed by what is waiting.  A
receive takes the oldest waiting datagram.  It calls the handlers of the boards at the
sender's address, by board and then by installation, and every handler sees the datagram's
bytes as far as a packet holds them.  What the packet held before does not matter.
-/
import WrenchLink.Proofs.Sensor.Mismatch
import WrenchLink.Proofs.Session.Run

namespace WrenchLink
namespace Session

variable {τ : Type}

/-- Every receive at every point of a run, whether it finds a datagram or fails.  A loop that
catches up is as many receives as there are datagrams waiting, and one that is stopped makes one
more, except that both leave the session's own packet alone. -/
theorem receive_demultiplexes (interface : Endpoint) (steps : List (Network × Operation τ))
    (packet : Packet) :
    let s := (opened interface).through steps
    let h := (opened interface).history steps
    let r := s.manager.receive packet
    h.arrivals = h.receptions ++ s.manager.queued ∧
      (match s.manager.queued with
      | d :: rest =>
        r.outcome = .ok (min d.bytes.length packetCapacity) ∧
          r.packet.bytes = d.bytes.take packetCapacity ∧
          r.manager.queued = rest ∧
          r.events.filter Event.isDatagram = h.calls d ∧
          (d.sender ∉ h.addresses → r.events.filter Event.isDatagram = [])
      | [] =>
        (∃ fault, r.outcome = .error fault) ∧ r.events.filter Event.isDatagram = [] ∧
          r.manager.queued = []) ∧
      (∀ net,
        let receives := List.replicate s.manager.queued.length (net, .receive)
        (s.step net .loopCatchesUp).notices = (s.run receives).flatMap Stepped.notices ∧
          (s.step net .loopCatchesUp).session = { s.through receives with inbox := s.inbox }) ∧
      (s.manager.receiving = true → ∀ net,
        let received := s.step net .receive
        (s.step net .stopReceiving).notices = received.notices ∧
          (s.step net .stopReceiving).session =
            { received.session with
              manager := { received.session.manager with receiving := false }
              inbox := s.inbox }) := by
  intro s h r
  have hs : s.manager.Follows h := follows_through interface steps
  have hloop : ∀ net,
      let receives := List.replicate s.manager.queued.length (net, .receive)
      (s.step net .loopCatchesUp).notices = (s.run receives).flatMap Stepped.notices ∧
        (s.step net .loopCatchesUp).session = { s.through receives with inbox := s.inbox } := by
    intro net
    obtain ⟨hnotices, hsession, -⟩ := s.loopCatchesUp_eq net
    exact ⟨hnotices, hsession⟩
  refine ⟨hs.queue, ?_, hloop, fun hreceiving net => stopReceiving_eq net hreceiving⟩
  cases hqueued : s.manager.queued with
  | cons d rest =>
    have hr : r = _ := Manager.receive_of_queued hqueued packet
    have hevents : r.events.filter Event.isDatagram = h.calls d := by
      rw [hr, hs.reactions_eq hqueued, List.filter_append, h.filter_calls, h.filter_reports,
        List.append_nil]
    refine ⟨by rw [hr], ?_, ?_, hevents, ?_⟩
    · rw [hr]
      exact packet.bytes_store d.bytes
    · rw [hr, Manager.queued_afterTaking, hqueued, List.tail_cons]
    · intro hunknown
      rw [hevents, History.calls_eq_nil hunknown]
  | nil =>
    have hr : r = _ := Manager.receive_of_queued_nil hqueued packet
    cases hbound : s.manager.isBound with
    | true =>
      rw [hbound, if_pos rfl] at hr
      rw [hr]
      refine ⟨⟨_, rfl⟩, ?_, hqueued⟩
      have hnotify := hs.notify_eq [noTrafficBoard]
      rw [List.flatMap_singleton] at hnotify
      rw [hnotify, h.filter_reports]
    | false =>
      rw [hbound, if_neg Bool.false_ne_true] at hr
      rw [hr]
      exact ⟨⟨_, rfl⟩, rfl, hqueued⟩

def sampleInterface : Endpoint := ⟨⟨192, 168, 1, 100⟩, defaultPort⟩

def sampleBoard (octet : UInt8) : BoardSpec :=
  ⟨⟨192, 168, 1, octet⟩, true, defaultPort, true, defaultPort⟩

/-- Two boards at one address and one at another, with handlers that come and go, and
datagrams of which the first is longer than a packet and the second is from a stranger. -/
def crowdedRun : List (Network × Operation Nat) := within sampleNetwork
  [.addBoard (sampleBoard 1), .addBoard (sampleBoard 2), .addBoard (sampleBoard 1), .bind,
    .install 2 10, .install 0 11, .install 0 12, .install 1 13, .attachSensor 0,
    .attachSensor 2, .remove 0 0, .dropSensor 1, .install 0 14,
    .datagramArrives ⟨⟨192, 168, 1, 1⟩, List.replicate 300 1⟩,
    .datagramArrives ⟨⟨192, 168, 1, 9⟩, [2]⟩,
    .datagramArrives ⟨⟨192, 168, 1, 1⟩, [3, 4]⟩,
    .receive]

theorem receive_demultiplexes_crowdedRun :
    let stranger : Session Nat := (opened sampleInterface).through crowdedRun
    let s : Session Nat :=
      (opened sampleInterface).through (crowdedRun ++ [(sampleNetwork, .receive)])
    let r := s.manager.receive s.inbox
    stranger.manager.queued = [⟨⟨192, 168, 1, 9⟩, [2]⟩, ⟨⟨192, 168, 1, 1⟩, [3, 4]⟩] ∧
      (stranger.manager.receive stranger.inbox).events.filter Event.isDatagram = [] ∧
      s.manager.queued = [⟨⟨192, 168, 1, 1⟩, [3, 4]⟩] ∧
      s.inbox.content.take 4 = [2, 1, 1, 1] ∧
      r.outcome = .ok 2 ∧
      r.packet.bytes = [3, 4] ∧
      r.events.filter Event.isDatagram =
        [.datagram (.observer 12) [3, 4], .datagram (.sensor 0) [3, 4],
          .datagram (.observer 14) [3, 4], .datagram (.observer 10) [3, 4]] := by
  intro stranger s r
  have hstranger : stranger.manager.queued =
      [⟨⟨192, 168, 1, 9⟩, [2]⟩, ⟨⟨192, 168, 1, 1⟩, [3, 4]⟩] := by decide +kernel
  have hqueued : s.manager.queued = [⟨⟨192, 168, 1, 1⟩, [3, 4]⟩] := by decide +kernel
  have hnobody :=
    (receive_demultiplexes sampleInterface crowdedRun stranger.inbox).2.1
  have hmany := (receive_demultiplexes sampleInterface
    (crowdedRun ++ [(sampleNetwork, .receive)]) s.inbox).2.1
  rw [hstranger] at hnobody
  rw [hqueued] at hmany
  obtain ⟨-, -, -, -, hunknown⟩ := hnobody
  obtain ⟨houtcome, hbytes, -, hevents, -⟩ := hmany
  exact ⟨hstranger, hunknown (by decide +kernel), hqueued, by decide +kernel, houtcome, hbytes,
    hevents.trans (by decide +kernel)⟩

end Session
end WrenchLink

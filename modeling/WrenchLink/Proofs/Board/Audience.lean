/-
Who observes a board, and from which address.

Transfers and connections leave a board's audience alone: `audience_sendTcp` and the lemmas
after it.
-/
import WrenchLink.Board.Basic
import WrenchLink.Proofs.Wire.Slot

namespace WrenchLink

namespace Board

variable {η : Type}

def audience (b : Board η) : Address × Registry η := (b.address, b.registry)

@[simp] theorem audience_sendTcp (net : Network) (b : Board η) (packet : Packet) :
    (b.sendTcp net packet).2.audience = b.audience := by
  rw [sendTcp]
  cases b.require .tcp <;> rfl

@[simp] theorem audience_receiveTcp (b : Board η) (packet : Packet) :
    (b.receiveTcp packet).2.audience = b.audience := by
  rw [receiveTcp]
  cases b.require .tcp <;> rfl

@[simp] theorem audience_sendUdp (net : Network) (b : Board η) (packet : Packet) :
    (b.sendUdp net packet).2.audience = b.audience := by
  rw [sendUdp]
  cases b.require .udp <;> rfl

@[simp] theorem audience_connect (net : Network) (b : Board η) :
    (b.connect net).2.audience = b.audience := by
  rw [connect]
  rcases b.openStream net with ⟨_ | _, tcp⟩ <;> rfl

end Board
end WrenchLink

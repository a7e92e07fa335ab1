/-
Choosing the local interface that can reach a board.

Boards ship on a class C subnet, so the interface that reaches a board is one that
shares the first three octets of its address.  Texts that are no addresses are on no
subnet at all.
-/
import WrenchLink.Address

namespace WrenchLink
namespace Subnet

/-- Both texts are addresses, and they agree on their first three octets. -/
def sameSubnet (board interface : String) : Bool :=
  match Address.parse? board, Address.parse? interface with
  | some x, some y => x.a == y.a && x.b == y.b && x.c == y.c
  | _, _ => false

def findInterface (board : String) (interfaces : List String) : Option String :=
  interfaces.find? (sameSubnet board)

end Subnet
end WrenchLink

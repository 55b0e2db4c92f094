/-! Orders of summation. Rounded addition is not associative, so the order in
which terms are added is part of a result; each order has its own name here. -/

set_option autoImplicit false

namespace TensorEngine

variable {α : Type} [Zero α] [Add α]

def sumInOrder (count : Nat) (term : Nat → α) : α :=
  (List.range count).foldl (fun total i => total + term i) 0

def stripe (blocks first : Nat) (term : Nat → α) : α :=
  sumInOrder blocks fun block => term (8 * block + first)

/-- Eight interleaved partial sums over the full blocks of eight, joined in
pairs four apart, then the remaining terms in order. -/
def sumStriped (count : Nat) (term : Nat → α) : α :=
  let blocks := count / 8
  let joined := sumInOrder 4 fun first => stripe blocks first term + stripe blocks (first + 4) term
  (List.range (count % 8)).foldl (fun total i => total + term (8 * blocks + i)) joined

-- A run of terms that lie side by side is added in stripes, any other in order.
def sumRun (adjacent : Bool) (count : Nat) (term : Nat → α) : α :=
  if adjacent then sumStriped count term else sumInOrder count term

end TensorEngine

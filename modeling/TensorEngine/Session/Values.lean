/-! Lists of numbers as a request gives them: one by one, or by a rule that yields
as many as are needed. -/

set_option autoImplicit false

namespace TensorEngine.Session

inductive Values where
  | listed (values : Array Float32)
  | repeated (value : Float32) (length : Option Nat)
  /-- Element i is (((i * factor + start) mod modulus) - offset) / divisor. -/
  | cyclic (factor start modulus offset divisor : Int) (length : Option Nat)

namespace Values

def cyclicAt (factor start modulus offset divisor : Int) (position : Nat) : Float32 :=
  Float32.ofInt ((Int.ofNat position * factor + start).tmod modulus - offset) /
    Float32.ofInt divisor

-- The numbers themselves; `count` says how many where the request does not.
def expand (values : Values) (count : Nat) : Array Float32 :=
  match values with
  | listed values => values
  | repeated value length => Array.replicate (length.getD count) value
  | cyclic factor start modulus offset divisor length =>
    (Array.range (length.getD count)).map (cyclicAt factor start modulus offset divisor)

end Values

end TensorEngine.Session

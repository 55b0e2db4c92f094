import TensorEngine.Shape
import TensorEngine.Text.Sequence

/-! What a convolution plan is derived from; equal keys mean equal plans. -/

set_option autoImplicit false

namespace TensorEngine.Conv

structure Key where
  data : Shape
  filters : Shape
  stride : Nat × Nat
  deriving DecidableEq

def Key.render (key : Key) : String :=
  s!"SetupKey \x7b data: {Text.bracketed key.data.toList}, " ++
    s!"filters: {Text.bracketed key.filters.toList}, stride: {Text.pair key.stride} \x7d"

end TensorEngine.Conv

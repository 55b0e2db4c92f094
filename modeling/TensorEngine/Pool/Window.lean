import TensorEngine.Text.Sequence

/-! Size and step of a pooling window, down the rows and across the columns. -/

set_option autoImplicit false

namespace TensorEngine.Pool

structure Window where
  size : Nat × Nat
  stride : Nat × Nat
  deriving DecidableEq

def Window.render (window : Window) : String :=
  s!"PoolDescriptor \x7b window: {Text.pair window.size}, stride: {Text.pair window.stride} \x7d"

end TensorEngine.Pool

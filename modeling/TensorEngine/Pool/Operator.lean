import TensorEngine.Event
import TensorEngine.Outcome
import TensorEngine.Pool.Geometry

/-! The max-pooling operator: a window that is kept until another one is set. -/

set_option autoImplicit false

namespace TensorEngine.Pool

structure Operator where
  window : Option Window
  deriving DecidableEq

namespace Operator

def new : Operator := ⟨none⟩

def isConfigured (operator : Operator) : Bool := operator.window.isSome

/-- A refused setting leaves the operator as it was. -/
def setup {α : Type} (operator : Operator) (window : Window) : Outcome Operator (Event α) Unit :=
  if window.size.1 = 0 ∨ window.size.2 = 0 ∨ window.stride.1 = 0 ∨ window.stride.2 = 0 then
    .refuse operator (.zeroPoolingParameter window.size window.stride)
  else
    let event :=
      if operator.window = some window then .poolUnchanged window else .poolConfigured window
    ⟨.ok (), ⟨some window⟩, [event]⟩

def clear (_ : Operator) : Operator := new

def current (operator : Operator) : Except Error Window :=
  match operator.window with
  | some window => .ok window
  | none => .error .poolingNotConfigured

end Operator

end TensorEngine.Pool

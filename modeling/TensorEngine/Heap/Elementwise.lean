import TensorEngine.Elementwise
import TensorEngine.Heap.Basic

/-! Arithmetic between tensors, and the gradient of a broadcast bias. -/

set_option autoImplicit false

namespace TensorEngine.Heap

variable {α : Type}

def checkAdd (heap : Heap α) (dest src : Handle) : Except Error Unit := do
  distinct "add" ("dest", dest) ("src", src)
  if Elementwise.broadcasts (heap.shape dest) (heap.shape src) then return ()
  else throw (.incompatibleShapes (heap.shape dest) (heap.shape src))

/-- Assigns beta * dest + alpha * src to `dest`. -/
def add [Zero α] [Add α] [Mul α] [BEq α] (heap : Heap α) (beta : α) (dest : Handle) (alpha : α)
    (src : Handle) : Outcome (Heap α) (Event α) Unit :=
  match heap.checkAdd dest src with
  | .error error => .refuse heap error
  | .ok () =>
    (heap.write dest [src] fun data => refusable
      (Elementwise.addScaled beta data (heap.layout dest) alpha (heap.data src)
        (heap.layout src))).after
      [.added beta (heap.shape dest) alpha (heap.shape src)]

def fill (heap : Heap α) (dest : Handle) (value : α) : Outcome (Heap α) (Event α) Unit :=
  heap.write dest [] fun data => .ok (Elementwise.fill data value)

def scale [Mul α] (heap : Heap α) (dest : Handle) (factor : α) : Outcome (Heap α) (Event α) Unit :=
  heap.write dest [] fun data => .ok (Elementwise.scale data factor)

def checkBiasGradient (heap : Heap α) (bias gradient : Handle) : Except Error Unit := do
  distinct "add_conv_bias_gradient" ("grad", bias) ("gradient_input", gradient)
  if (heap.layout gradient).count = 0 then throw .emptyTensor
  expectShape ⟨1, (heap.shape gradient).channels, 1, 1⟩ (heap.shape bias)

/-- Adds the sum of every channel of a gradient onto the gradient of the bias. -/
def addBiasGradient [Zero α] [Add α] (heap : Heap α) (bias gradient : Handle) :
    Outcome (Heap α) (Event α) Unit :=
  match heap.checkBiasGradient bias gradient with
  | .error error => .refuse heap error
  | .ok () =>
    (heap.write bias [gradient] fun data => refusable
      (Elementwise.addChannelSums data (heap.data gradient) (heap.layout gradient))).after
      [.biasGradient (heap.shape gradient)]

end TensorEngine.Heap

import TensorEngine.Heap.Basic
import TensorEngine.Pool.Kernel
import TensorEngine.Pool.Operator

/-! Max pooling of tensors by a configured operator. -/

set_option autoImplicit false

namespace TensorEngine.Heap

open TensorEngine.Pool

variable {α : Type}

def checkPool (heap : Heap α) (operator : Operator) (dest src : Handle) :
    Except Failure Geometry := do
  let window ← operator.current
  distinct "max_pool" ("dest", dest) ("src", src)
  Geometry.ofLayout window (heap.layout src)

def checkPoolGradient (heap : Heap α) (operator : Operator)
    (outputGradient dest src gradient : Handle) : Except Failure Geometry := do
  let window ← operator.current
  distinct "max_pool_gradient" ("grad", gradient) ("gradient_input", outputGradient)
  distinct "max_pool_gradient" ("grad", gradient) ("dest", dest)
  distinct "max_pool_gradient" ("grad", gradient) ("src", src)
  let geometry ← Geometry.ofLayout window (heap.layout src)
  expectShape geometry.dest.dims (heap.shape dest)
  expectShape (heap.shape dest) (heap.shape outputGradient)
  expectShape (heap.shape src) (heap.shape gradient)
  return geometry

variable [Lowest α] [LT α] [DecidableLT α]

/-- Resizes `dest` and fills it with the window maxima of `src`. -/
def pool [Zero α] (heap : Heap α) (operator : Operator) (dest src : Handle) :
    Outcome (Heap α) (Event α) Unit :=
  match heap.checkPool operator dest src with
  | .error failure => .fail heap failure
  | .ok geometry =>
    (heap.setSize dest geometry.dest.dims).andThen fun _ resized =>
      (resized.write dest [src] fun data =>
        inRange (maxForward geometry data (resized.data src))).after
        [.pooled geometry.src.dims geometry.dest.dims]

/-- Adds the gradient of every output onto the position its value came from. -/
def addPoolGradient [BEq α] [Add α] (heap : Heap α) (operator : Operator)
    (outputGradient dest src gradient : Handle) : Outcome (Heap α) (Event α) Unit :=
  match heap.checkPoolGradient operator outputGradient dest src gradient with
  | .error failure => .fail heap failure
  | .ok geometry =>
    (heap.write gradient [outputGradient, dest, src] fun data =>
      inRange (maxBackward geometry data (heap.data outputGradient) (heap.data dest)
        (heap.data src))).after
      [.unpooled geometry.dest.dims geometry.src.dims]

end TensorEngine.Heap

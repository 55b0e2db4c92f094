import TensorEngine.Activation
import TensorEngine.Heap.Basic

/-! Activations of tensors. The destination may be the source, and a gradient may
replace the gradient it comes from, but not the outputs. -/

set_option autoImplicit false

namespace TensorEngine.Heap

variable {α : Type}

-- Brings the elements of one object into another, unless they are one.
def copyInto (heap : Heap α) (dest src : Handle) : Outcome (Heap α) (Event α) Unit :=
  if dest = src then .done heap ()
  else heap.write dest [src] fun data => refusable (Buffer.assign data (heap.data src))

def checkGradient (heap : Heap α) (activation : Activation)
    (gradient outputs outputGradient : Handle) :
    Except Error Unit := do
  expectShape (heap.shape outputs) (heap.shape outputGradient)
  expectShape (heap.shape outputs) (heap.shape gradient)
  distinct activation.name ("grad", gradient) ("dest", outputs)

variable [Zero α] [One α] [Add α] [Sub α] [Neg α] [Mul α] [Div α] [LT α] [LE α] [DecidableLT α]
  [DecidableLE α] [Elementary α]

/-- Assigns the activation of `src` to `dest`. -/
def activate (heap : Heap α) (activation : Activation) (dest src : Handle) :
    Outcome (Heap α) (Event α) Unit :=
  match expectShape (heap.shape src) (heap.shape dest) with
  | .error error => .refuse heap error
  | .ok () =>
    (heap.copyInto dest src).andThen fun _ copied =>
      let layout := copied.layout dest
      (copied.write dest [] fun data => refusable (activation.apply data layout)).after
        [.activated activation layout.dims]

/-- Assigns the gradient of the inputs to `gradient`. -/
def activationGradient (heap : Heap α) (activation : Activation)
    (gradient outputs outputGradient : Handle) : Outcome (Heap α) (Event α) Unit :=
  match heap.checkGradient activation gradient outputs outputGradient with
  | .error error => .refuse heap error
  | .ok () =>
    (heap.copyInto gradient outputGradient).andThen fun _ copied =>
      let layout := copied.layout outputs
      (copied.write gradient [outputs] fun data =>
        refusable (activation.gradient data (copied.data outputs) layout)).after
        [.activationGradient activation layout.dims]

end TensorEngine.Heap

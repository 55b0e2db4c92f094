import TensorEngine.Gradient.Comparison
import TensorEngine.Heap.Activation
import TensorEngine.Heap.Convolution
import TensorEngine.Heap.Pooling
import TensorEngine.Session.State
import TensorEngine.Session.Step

/-! Objectives of a session. The tensors that an objective makes for itself are
gone when it has answered; what it records stays. -/

set_option autoImplicit false

namespace TensorEngine.Session

open TensorEngine.Gradient

def dotOf (first second : Handle) : Objective Float32 := fun heap =>
  .ofExcept heap (dotProduct (heap.data first) (heap.data second))

def reluObjective (input weights : Handle) : Objective Float32 := fun heap =>
  (heap.createZeros (heap.shape input)).andThen fun output heap =>
  (heap.activate .relu output input).andThen fun _ heap => dotOf output weights heap

def poolObjective (operator : Pool.Operator) (input weights : Handle) :
    Objective Float32 := fun heap =>
  (heap.createZeros Shape.empty).andThen fun output heap =>
  (heap.pool operator output input).andThen fun _ heap => dotOf output weights heap

def convolutionObjective (data filters weights : Handle) (stride : Nat × Nat) : Objective Float32 :=
  fun heap =>
    (heap.createZeros Shape.empty).andThen fun output heap =>
    ((heap.setupConvolution Conv.hostAllocator
      (Conv.Operator.new default .words) data filters stride).mapState
      (·, heap)).andThen (fun _ state =>
        state.2.convolveForward state.1 output data filters) |>.mapState Prod.snd |>.andThen
      fun _ heap => dotOf output weights heap

def withoutScratch (objective : Objective Float32) : Objective Float32 := fun heap =>
  (objective heap).mapState fun _ => heap

-- A refused window is an error of the step; a missing name makes no objective.
def ObjectiveSpec.resolve (spec : ObjectiveSpec) (session : Session) (input : Handle) :
    Option (Outcome Unit (Event Float32) (Objective Float32)) := do
  match spec with
  | .dotSelf => return .done () (dotOf input input)
  | .dot weights => return .done () (dotOf input (← session.tensors.find weights))
  | .relu weights =>
    return .done () (withoutScratch (reluObjective input (← session.tensors.find weights)))
  | .pool weights window =>
    let weights ← session.tensors.find weights
    return ((Pool.Operator.new.setup window).map fun _ =>
      withoutScratch (poolObjective ⟨some window⟩ input weights)).mapState fun _ => ()
  | .convData filters weights stride =>
    let filters ← session.tensors.find filters
    let weights ← session.tensors.find weights
    return .done () (withoutScratch (convolutionObjective input filters weights stride))
  | .convFilters data weights stride =>
    let data ← session.tensors.find data
    let weights ← session.tensors.find weights
    return .done () (withoutScratch (convolutionObjective data input weights stride))

end TensorEngine.Session

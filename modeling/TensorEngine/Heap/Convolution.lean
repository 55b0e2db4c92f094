import TensorEngine.Conv.Operator
import TensorEngine.Heap.Basic

/-! Convolution of tensors by a configured operator. Operands have the shapes of
the plan, and the destination is none of them. -/

set_option autoImplicit false

namespace TensorEngine.Heap

open TensorEngine.Conv

variable {α : Type}

def setupConvolution [Zero α] (heap : Heap α) (allocator : Allocator) (operator : Operator α)
    (data filters : Handle) (stride : Nat × Nat) : Outcome (Operator α) (Event α) Unit :=
  operator.setup allocator (heap.layout data) (heap.layout filters) stride

def checkForward (heap : Heap α) (operator : Operator α) (output data filters : Handle) :
    Except Error (Plan α) := do
  let plan ← operator.planFor .forward
  expectShape plan.key.data (heap.shape data)
  expectShape plan.key.filters (heap.shape filters)
  distinct "conv_forward" ("output", output) ("data", data)
  distinct "conv_forward" ("output", output) ("filters", filters)
  return plan

def checkDataGradient (heap : Heap α) (operator : Operator α)
    (outputGradient filters dataGradient : Handle) : Except Error (Plan α) := do
  let plan ← operator.planFor .backwardData
  expectShape plan.geometry.output.dims (heap.shape outputGradient)
  expectShape plan.key.filters (heap.shape filters)
  expectShape plan.key.data (heap.shape dataGradient)
  distinct "conv_gradient_for_data" ("data_gradient", dataGradient) ("filters", filters)
  distinct "conv_gradient_for_data" ("data_gradient", dataGradient)
    ("gradient_input", outputGradient)
  return plan

def checkFilterGradient (heap : Heap α) (operator : Operator α)
    (outputGradient data filterGradient : Handle) : Except Error (Plan α) := do
  let plan ← operator.planFor .backwardFilter
  expectShape plan.geometry.output.dims (heap.shape outputGradient)
  expectShape plan.key.data (heap.shape data)
  expectShape plan.key.filters (heap.shape filterGradient)
  distinct "conv_gradient_for_filters" ("filters_gradient", filterGradient) ("data", data)
  distinct "conv_gradient_for_filters" ("filters_gradient", filterGradient)
    ("gradient_input", outputGradient)
  return plan

variable [Zero α] [One α] [Add α] [Mul α] [MatrixProduct α]

/-- Runs one pass of a plan into `target`. What the pass leaves there stays, also
when it fails. -/
def convolve (heap : Heap α) (operator : Operator α) (plan : Plan α) (pass : Pass)
    (target first second : Handle) : Outcome (Operator α × Heap α) (Event α) Unit :=
  if target ∈ [first, second] then .fail (operator, heap) (.fault .sharedWrite)
  else
    let passPlan := plan.passes.get pass
    let result := run pass passPlan.algorithm plan.geometry passPlan.workspace
      (heap.data target) (heap.data first) (heap.data second)
    ⟨result.answer, (operator.withWorkspace pass result.workspace, heap.store target result.target),
      [.convolved pass passPlan.algorithm]⟩

/-- Resizes `output` and assigns the convolution of `filters` over `data` to it. -/
def convolveForward (heap : Heap α) (operator : Operator α) (output data filters : Handle) :
    Outcome (Operator α × Heap α) (Event α) Unit :=
  match heap.checkForward operator output data filters with
  | .error error => .refuse (operator, heap) error
  | .ok plan =>
    ((heap.setSize output plan.geometry.output.dims).mapState (operator, ·)).andThen fun _ state =>
      state.2.convolve operator plan .forward output data filters

/-- Adds the gradient of the data onto `dataGradient`. -/
def addDataGradient (heap : Heap α) (operator : Operator α)
    (outputGradient filters dataGradient : Handle) : Outcome (Operator α × Heap α) (Event α) Unit :=
  match heap.checkDataGradient operator outputGradient filters dataGradient with
  | .error error => .refuse (operator, heap) error
  | .ok plan => heap.convolve operator plan .backwardData dataGradient outputGradient filters

/-- Assigns the gradient of the filters to `filterGradient`. -/
def assignFilterGradient (heap : Heap α) (operator : Operator α)
    (outputGradient data filterGradient : Handle) : Outcome (Operator α × Heap α) (Event α) Unit :=
  match heap.checkFilterGradient operator outputGradient data filterGradient with
  | .error error => .refuse (operator, heap) error
  | .ok plan => heap.convolve operator plan .backwardFilter filterGradient outputGradient data

end TensorEngine.Heap

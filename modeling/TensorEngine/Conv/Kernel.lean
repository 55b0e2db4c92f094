import TensorEngine.Conv.Direct
import TensorEngine.Conv.Product
import TensorEngine.Outcome

/-! One pass on flat storage, by either algorithm. Operands come in the order of
the pass: data and filters forward, output gradient and filters for the data
gradient, output gradient and data for the filter gradient. -/

set_option autoImplicit false

namespace TensorEngine.Conv

variable {α : Type}

/-- What a pass answers, and what it leaves in its destination and workspace. -/
structure Run (α : Type) where
  answer : Except Failure Unit
  target : Array α
  workspace : Option (Array α)

namespace Run

def stopped (failure : Failure) (target : Array α) (workspace : Option (Array α)) : Run α :=
  ⟨.error failure, target, workspace⟩

def ofTarget (workspace : Option (Array α)) (target : Array α) : Option (Array α) → Run α
  | some result => ⟨.ok (), result, workspace⟩
  | none => stopped (.fault .outOfRange) target workspace

def ofWritten (before : Written α) : Option (Written α) → Run α
  | some written => ⟨.ok (), written.target, some written.workspace⟩
  | none => stopped (.fault .outOfRange) before.target (some before.workspace)

end Run

variable [Zero α] [One α] [Add α] [Mul α] [MatrixProduct α]

def runDirect (pass : Pass) (geometry : Geometry) (target first second : Array α) :
    Option (Array α) :=
  match pass with
  | .forward => forwardDirect geometry target first second
  | .backwardData => dataGradientDirect geometry target first second
  | .backwardFilter => filterGradientDirect geometry target first second

-- The filter gradient starts from zeros, and is seen as a matrix only after that.
def runLowered (pass : Pass) (geometry : Geometry)
    (target workspace first second : Array α) : Run α :=
  let filterRows := geometry.output.dims.channels
  match pass with
  | .forward =>
    match Buffer.fitsMatrix second filterRows geometry.columnRows with
    | .error error => .stopped (.refused error) target (some workspace)
    | .ok () => .ofWritten ⟨target, workspace⟩
        (overSamples geometry (forwardSample geometry first second) ⟨target, workspace⟩)
  | .backwardData =>
    match Buffer.fitsMatrix second filterRows geometry.columnRows with
    | .error error => .stopped (.refused error) target (some workspace)
    | .ok () => .ofWritten ⟨target, workspace⟩
        (overSamples geometry (dataGradientSample geometry first second) ⟨target, workspace⟩)
  | .backwardFilter =>
    let cleared := Buffer.zeros target.size
    match Buffer.fitsMatrix cleared filterRows geometry.columnRows with
    | .error error => .stopped (.refused error) cleared (some workspace)
    | .ok () => .ofWritten ⟨target, workspace⟩
        (overSamples geometry (filterGradientSample geometry first second) ⟨cleared, workspace⟩)

def run (pass : Pass) (algorithm : Algorithm) (geometry : Geometry) (workspace : Option (Array α))
    (target first second : Array α) : Run α :=
  match algorithm, workspace with
  | .direct, _ => .ofTarget workspace target (runDirect pass geometry target first second)
  | .lowered, some scratch => runLowered pass geometry target scratch first second
  | .lowered, none => .stopped (.refused .missingWorkspace) target none

end TensorEngine.Conv

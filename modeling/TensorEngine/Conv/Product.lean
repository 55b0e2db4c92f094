import TensorEngine.Conv.Lowering
import TensorEngine.Matrix

/-! Convolution by matrix products. Filters are a matrix with a row for each
filter and a column for each tap, the output of a sample one with a row for each
filter and a column for each location; a column matrix joins the two. Samples
share one workspace for their column matrix and run one after another. -/

set_option autoImplicit false

namespace TensorEngine.Conv

variable {α : Type}

structure Written (α : Type) where
  target : Array α
  workspace : Array α

namespace Geometry

def sampleLength (geometry : Geometry) : Nat := geometry.output.strides.sample

def outputSlice (geometry : Geometry) (storage : Array α) (sample : Nat) : Option (Array α) :=
  Buffer.slice storage (sample * geometry.sampleLength) ((sample + 1) * geometry.sampleLength)

end Geometry

def fillWorkspace (geometry : Geometry) (workspace columns : Array α) : Option (Array α) :=
  if geometry.columnRows * geometry.columnCols ≤ workspace.size then
    some (Buffer.overwrite workspace 0 columns)
  else none

section

variable [Zero α] [One α] [Add α] [MatrixProduct α]

/-- Output of one sample: filters times the column matrix of the sample. -/
def forwardSample (geometry : Geometry) (data filters : Array α) (written : Written α)
    (sample : Nat) :
    Option (Written α) := do
  let rows := geometry.columnRows
  let cols := geometry.columnCols
  let workspace ← fillWorkspace geometry written.workspace (← lower geometry data sample)
  let weights ← Entries.ofStorage? filters geometry.output.dims.channels rows
  let columns ← Entries.ofStorage? workspace rows cols
  let before ← Entries.ofStorage? (← geometry.outputSlice written.target sample)
    geometry.output.dims.channels cols
  let block := Entries.toStorage (MatrixProduct.multiplyAdd 1 weights columns 0 before)
  return ⟨Buffer.overwrite written.target (sample * geometry.sampleLength) block, workspace⟩

/-- Data gradient of one sample: filters transposed times the output gradient,
added back onto the sample. -/
def dataGradientSample (geometry : Geometry) (outputGradient filters : Array α)
    (written : Written α) (sample : Nat) : Option (Written α) := do
  let rows := geometry.columnRows
  let cols := geometry.columnCols
  let weights ← Entries.ofStorage? filters geometry.output.dims.channels rows
  let share ← Entries.ofStorage? (← geometry.outputSlice outputGradient sample)
    geometry.output.dims.channels cols
  let before ← Entries.ofStorage? written.workspace rows cols
  let columns := Entries.toStorage
    (MatrixProduct.multiplyAdd 1 (Entries.transpose weights) share 0 before)
  let workspace ← fillWorkspace geometry written.workspace columns
  let target ← raise geometry workspace sample written.target
  return ⟨target, workspace⟩

/-- Adds the filter gradient of one sample: its output gradient times the column
matrix transposed. Elements beyond the filter matrix are left alone. -/
def filterGradientSample (geometry : Geometry) (outputGradient data : Array α) (written : Written α)
    (sample : Nat) : Option (Written α) := do
  let rows := geometry.columnRows
  let cols := geometry.columnCols
  let workspace ← fillWorkspace geometry written.workspace (← lower geometry data sample)
  let columns ← Entries.ofStorage? workspace rows cols
  let share ← Entries.ofStorage? (← geometry.outputSlice outputGradient sample)
    geometry.output.dims.channels cols
  let before ← Entries.ofStorage? written.target geometry.output.dims.channels rows
  let block := Entries.toStorage
    (MatrixProduct.multiplyAdd 1 share (Entries.transpose columns) 1 before)
  return ⟨Buffer.overwrite written.target 0 block, workspace⟩

end

def overSamples (geometry : Geometry) (step : Written α → Nat → Option (Written α))
    (written : Written α) : Option (Written α) :=
  (List.range geometry.data.dims.samples).foldlM step written

end TensorEngine.Conv

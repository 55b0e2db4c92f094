import TensorEngine.Conv.Axis
import TensorEngine.Conv.Pass
import TensorEngine.Error
import TensorEngine.Layout

/-! Shapes and strides of one convolution, and the column matrix that one sample
is lowered into: a row for each filter tap, a column for each output location. -/

set_option autoImplicit false

namespace TensorEngine.Conv

structure Geometry where
  data : Layout
  filters : Layout
  -- Down the rows, then across the columns.
  stride : Nat × Nat
  deriving DecidableEq

namespace Geometry

-- Refuses zero strides first, then empty operands, then channels that differ.
def ofLayouts (data filters : Layout) (stride : Nat × Nat) : Except Error Geometry :=
  if stride.1 = 0 ∨ stride.2 = 0 then .error (.zeroConvolutionStride stride)
  else if data.count = 0 ∨ filters.count = 0 then .error .emptyTensor
  else if filters.dims.channels ≠ data.dims.channels then
    .error (.channelMismatch filters.dims.channels data.dims.channels)
  else .ok { data, filters, stride }

def rowAxis (geometry : Geometry) : Axis :=
  ⟨geometry.data.dims.rows, geometry.filters.dims.rows, geometry.stride.1⟩

def colAxis (geometry : Geometry) : Axis :=
  ⟨geometry.data.dims.cols, geometry.filters.dims.cols, geometry.stride.2⟩

def output (geometry : Geometry) : Layout :=
  Layout.ofShape ⟨geometry.data.dims.samples, geometry.filters.dims.samples,
    geometry.rowAxis.outputs, geometry.colAxis.outputs⟩

def planeTaps (geometry : Geometry) : Nat :=
  geometry.filters.dims.rows * geometry.filters.dims.cols

def columnRows (geometry : Geometry) : Nat :=
  geometry.filters.dims.channels * geometry.filters.dims.rows * geometry.filters.dims.cols

def columnCols (geometry : Geometry) : Nat := geometry.output.plane

end Geometry

namespace Algorithm

-- Workspace in scalars; every pass needs one column matrix at a time.
def workspaceElements (algorithm : Algorithm) (counting : Counting) (_ : Pass)
    (geometry : Geometry) : Nat :=
  match algorithm with
  | .direct => 0
  | .lowered => counting.count (geometry.columnRows * geometry.columnCols)

def workspaceBytes (algorithm : Algorithm) (counting : Counting) (pass : Pass)
    (geometry : Geometry) : Nat :=
  counting.count (algorithm.workspaceElements counting pass geometry * scalarBytes)

def select (counting : Counting) (pass : Pass) (geometry : Geometry) (cap : Nat) : Algorithm :=
  (bySpeed.find? fun algorithm =>
    algorithm.workspaceBytes counting pass geometry ≤ cap).getD .direct

end Algorithm

end TensorEngine.Conv

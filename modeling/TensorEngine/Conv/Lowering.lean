import TensorEngine.Buffer
import TensorEngine.Conv.Geometry

/-! Lowering one sample into a column matrix, and adding a column matrix back onto
the sample. Row (channel * taps + tap) of the matrix holds, for every output
location, the data element that the tap reads there. -/

set_option autoImplicit false

namespace TensorEngine.Conv

namespace Geometry

/-- Data offset that a cell of the column matrix is read from; none in the padding. -/
def columnSource (geometry : Geometry) (sample row location : Nat) : Option Nat := do
  let channel := row / geometry.planeTaps
  let tapRow := row % geometry.planeTaps / geometry.filters.dims.cols
  let tapCol := row % geometry.filters.dims.cols
  let dataRow ← geometry.rowAxis.input? (location / geometry.output.dims.cols) tapRow
  let dataCol ← geometry.colAxis.input? (location % geometry.output.dims.cols) tapCol
  return geometry.data.offset ⟨sample, channel, dataRow, dataCol⟩

-- Pairs (data offset, column cell) of everything a column matrix adds to a
-- sample: channels, then taps, then output rows, then output columns.
def columnMoves (geometry : Geometry) (sample : Nat) : List (Nat × Nat) :=
  let outputs := geometry.output.dims
  (List.range geometry.data.dims.channels).flatMap fun channel =>
    (List.range geometry.planeTaps).flatMap fun tap =>
      sweep outputs.rows outputs.cols (geometry.rowAxis.input? · (tap / geometry.filters.dims.cols))
        (geometry.colAxis.input? · (tap % geometry.filters.dims.cols)) fun outRow row outCol col =>
          (geometry.data.offset ⟨sample, channel, row, col⟩,
            (channel * geometry.planeTaps + tap) * geometry.columnCols +
              (outRow * outputs.cols + outCol))

end Geometry

variable {α : Type}

/-- The column matrix of a sample, with zeros where a tap reads padding. -/
def lower [Zero α] (geometry : Geometry) (data : Array α) (sample : Nat) : Option (Array α) :=
  let cols := geometry.columnCols
  Buffer.tabulate (geometry.columnRows * cols) fun cell =>
    match geometry.columnSource sample (cell / cols) (cell % cols) with
    | some source => data[source]?
    | none => some 0

/-- Adds a column matrix back onto the data positions its cells were read from. -/
def raise [Add α] (geometry : Geometry) (columns : Array α) (sample : Nat) (gradient : Array α) :
    Option (Array α) :=
  if (sample + 1) * geometry.data.strides.sample ≤ gradient.size ∧
      geometry.columnRows * geometry.columnCols ≤ columns.size then
    Buffer.scatterAdd gradient columns (geometry.columnMoves sample)
  else none

end TensorEngine.Conv

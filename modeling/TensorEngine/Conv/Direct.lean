import TensorEngine.Buffer
import TensorEngine.Conv.Geometry

/-! Direct convolution. Every element of a result is one sum of products; what it
sums, and in which order, is the list of offset pairs given here. Taps that fall
outside the data take no part. -/

set_option autoImplicit false

namespace TensorEngine.Conv

namespace Geometry

-- Offsets (filters, data) of the products behind an output position: channels,
-- then filter rows, then filter columns.
def forwardTerms (geometry : Geometry) (output : Index) : List (Nat × Nat) :=
  let taps := geometry.filters.dims
  (List.range taps.channels).flatMap fun channel =>
    sweep taps.rows taps.cols (geometry.rowAxis.input? output.row)
      (geometry.colAxis.input? output.col)
      fun tapRow row tapCol col =>
        (geometry.filters.offset ⟨output.channel, channel, tapRow, tapCol⟩,
          geometry.data.offset ⟨output.sample, channel, row, col⟩)

-- Offsets (filters, output gradient) of the products behind a data position:
-- filters, then filter rows, then filter columns.
def dataTerms (geometry : Geometry) (data : Index) : List (Nat × Nat) :=
  let taps := geometry.filters.dims
  (List.range taps.samples).flatMap fun filter =>
    sweep taps.rows taps.cols (geometry.rowAxis.output? data.row)
      (geometry.colAxis.output? data.col)
      fun tapRow row tapCol col =>
        (geometry.filters.offset ⟨filter, data.channel, tapRow, tapCol⟩,
          geometry.output.offset ⟨data.sample, filter, row, col⟩)

-- Offsets (output gradient, data) of the products behind a filter position:
-- samples, then output rows, then output columns.
def filterTerms (geometry : Geometry) (filter : Index) : List (Nat × Nat) :=
  let outputs := geometry.output.dims
  (List.range geometry.data.dims.samples).flatMap fun sample =>
    sweep outputs.rows outputs.cols (geometry.rowAxis.input? · filter.row)
      (geometry.colAxis.input? · filter.col) fun outRow row outCol col =>
        (geometry.output.offset ⟨sample, filter.sample, outRow, outCol⟩,
          geometry.data.offset ⟨sample, filter.channel, row, col⟩)

end Geometry

variable {α : Type} [Zero α] [Add α] [Mul α]

def wholePlanes (storage : Array α) (layout : Layout) : Bool :=
  layout.plane ≠ 0 && storage.size % layout.plane = 0

-- Assigns every output; the previous contents only say how many there are.
def forwardDirect (geometry : Geometry) (output data filters : Array α) : Option (Array α) :=
  if wholePlanes output geometry.output then
    let layout := geometry.output
    Buffer.tabulate output.size fun flat =>
      Buffer.dotAlong filters data (geometry.forwardTerms (layout.planePosition flat))
  else none

/-- Adds the gradient of every data element to what is already there. -/
def dataGradientDirect (geometry : Geometry) (gradient outputGradient filters : Array α) :
    Option (Array α) :=
  if wholePlanes gradient geometry.data then
    Buffer.tabulate gradient.size fun flat => do
      let share ← Buffer.dotAlong filters outputGradient
        (geometry.dataTerms (geometry.data.planePosition flat))
      return (← gradient[flat]?) + share
  else none

def filterGradientDirect (geometry : Geometry) (gradient outputGradient data : Array α) :
    Option (Array α) :=
  Buffer.tabulate gradient.size fun flat =>
    Buffer.dotAlong outputGradient data (geometry.filterTerms (geometry.filters.position flat))

end TensorEngine.Conv

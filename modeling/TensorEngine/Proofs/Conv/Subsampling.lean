import TensorEngine.Proofs.Conv.Direct

/-! A stride chooses among the outputs. With unit strides there is an output for every
position of the data; larger strides keep the first of every so many and leave each as it
is, sum by sum in the same order, so nothing is asked of the scalars. -/

set_option autoImplicit false

namespace TensorEngine.Conv

namespace Axis

/-- The axis on which no output is passed over. -/
def dense (axis : Axis) : Axis := { axis with stride := 1 }

-- The padding is that of the taps alone, so a chosen output reads what it would read among all.
theorem input?_dense (axis : Axis) (output tap : Nat) :
    axis.dense.input? (output * axis.stride) tap = axis.input? output tap := by
  unfold input? inputBy? Counting.count
  rw [show axis.dense.stride = 1 from rfl, Nat.mul_one]
  rfl

theorem outputs_dense (axis : Axis) (holds : 0 < axis.extent) :
    axis.dense.outputs = axis.extent := by
  change 1 + (axis.extent - 1) / 1 = axis.extent
  rw [Nat.div_one]
  omega

end Axis

namespace Geometry

variable {geometry : Geometry}

/-- The geometry with unit strides. -/
def dense (geometry : Geometry) : Geometry := { geometry with stride := (1, 1) }

/-- Where an output stands among those with unit strides. -/
def chosen (geometry : Geometry) (output : Index) : Index :=
  { output with row := output.row * geometry.stride.1, col := output.col * geometry.stride.2 }

theorem forwardTerms_chosen (geometry : Geometry) (output : Index) :
    geometry.dense.forwardTerms (geometry.chosen output) = geometry.forwardTerms output := by
  have rows : geometry.dense.rowAxis.input? (output.row * geometry.stride.1) =
      geometry.rowAxis.input? output.row :=
    funext (geometry.rowAxis.input?_dense output.row)
  have cols : geometry.dense.colAxis.input? (output.col * geometry.stride.2) =
      geometry.colAxis.input? output.col :=
    funext (geometry.colAxis.input?_dense output.col)
  unfold forwardTerms chosen
  dsimp only
  rw [rows, cols]
  rfl

namespace Admitted

variable (admitted : geometry.Admitted)

include admitted

theorem dense : geometry.dense.Admitted where
  data := admitted.data
  filters := admitted.filters
  dataHolds := admitted.dataHolds
  filtersHold := admitted.filtersHold
  channels := admitted.channels
  rowStride := Nat.one_pos
  colStride := Nat.one_pos

theorem dims_dense :
    geometry.dense.output.dims = ⟨geometry.data.dims.samples, geometry.filters.dims.samples,
    geometry.data.dims.rows, geometry.data.dims.cols⟩ := by
  obtain ⟨-, -, rows, cols⟩ := Shape.pos_of_count admitted.dataHolds
  rw [admitted.dense.output_dims]
  exact congrArg₂ (Shape.mk _ _) (geometry.rowAxis.outputs_dense rows)
    (geometry.colAxis.outputs_dense cols)

theorem lt_output_rows (row : Nat) :
    row < geometry.output.dims.rows ↔ row * geometry.stride.1 < geometry.data.dims.rows := by
  obtain ⟨-, -, rows, -⟩ := Shape.pos_of_count admitted.dataHolds
  rw [admitted.output_dims]
  exact Axis.lt_outputs_iff admitted.rowStride rows

theorem lt_output_cols (col : Nat) :
    col < geometry.output.dims.cols ↔ col * geometry.stride.2 < geometry.data.dims.cols := by
  obtain ⟨-, -, -, cols⟩ := Shape.pos_of_count admitted.dataHolds
  rw [admitted.output_dims]
  exact Axis.lt_outputs_iff admitted.colStride cols

theorem chosen_within {output : Index} (within : output.Within geometry.output.dims) :
    (geometry.chosen output).Within geometry.dense.output.dims := by
  have rows := (admitted.lt_output_rows output.row).mp within.2.2.1
  have cols := (admitted.lt_output_cols output.col).mp within.2.2.2
  rw [admitted.output_dims] at within
  rw [admitted.dims_dense]
  exact ⟨within.1, within.2.1, rows, cols⟩

end Admitted

end Geometry

variable {α : Type} [Zero α] [One α] [Add α] [Mul α] [MatrixProduct α] {geometry : Geometry}

theorem read_directForward (admitted : geometry.Admitted) {target data filters : Array α}
    (fits : geometry.Fits .forward target data filters) (workspace : Option (Array α))
    {output : Index} (within : output.Within geometry.output.dims) :
    Buffer.read geometry.output (run .forward .direct geometry workspace target data filters).target
      output = Buffer.sumAlong filters data (geometry.forwardTerms output) := by
  have inside : geometry.output.offset output < target.size :=
    Nat.lt_of_lt_of_eq (geometry.output_rowMajor.offset_lt within) fits.target.symm
  unfold Buffer.read
  rw [run_direct admitted fits, Buffer.cell_cells _ inside]
  unfold directCell
  dsimp only
  rw [geometry.output_rowMajor.position_offset within]

/-- With any accepted strides the direct forward pass leaves, bit for bit, what it leaves
with unit strides at every multiple of the strides inside the data, and nothing else.
Neither what the targets held nor a workspace plays a part. -/
theorem striding_is_subsampling {data filters : Shape} {stride : Nat × Nat}
    (accepted : Geometry.ofLayouts (.ofShape data) (.ofShape filters) stride = .ok geometry)
    {target every values taps : Array α} (fits : geometry.Fits .forward target values taps)
    (size : every.size = geometry.dense.output.count) (workspace unused : Option (Array α)) :
    let strided := run .forward .direct geometry workspace target values taps
    let dense := run .forward .direct geometry.dense unused every values taps
    Geometry.ofLayouts (.ofShape data) (.ofShape filters) (1, 1) = .ok geometry.dense ∧
      strided.answer = .ok () ∧ dense.answer = .ok () ∧
      (∀ row, row < geometry.output.dims.rows ↔ row * stride.1 < data.rows) ∧
      (∀ col, col < geometry.output.dims.cols ↔ col * stride.2 < data.cols) ∧
      ∀ sample filter row col, (⟨sample, filter, row, col⟩ : Index).Within geometry.output.dims →
        (⟨sample, filter, row * stride.1, col * stride.2⟩ : Index).Within
          geometry.dense.output.dims ∧
          Buffer.read geometry.output strided.target ⟨sample, filter, row, col⟩ =
            Buffer.read geometry.dense.output dense.target
              ⟨sample, filter, row * stride.1, col * stride.2⟩ := by
  intro strided dense
  have admitted := Geometry.admitted_of_ofLayouts accepted
  obtain ⟨rfl, -⟩ := Geometry.ofLayouts_eq_ok_iff.mp accepted
  have denseFits : (Geometry.dense ⟨.ofShape data, .ofShape filters, stride⟩).Fits .forward every
      values taps :=
    ⟨size, fits.first, fits.second⟩
  have holds : 0 < data.count := (Layout.count_ofShape data).symm ▸ admitted.dataHolds
  obtain ⟨samples, channels, rows, cols⟩ := Shape.pos_of_count holds
  have dims : (Layout.ofShape data).dims = data := Shape.collapse_of_pos samples channels rows cols
  have lastRow := admitted.lt_output_rows
  have lastCol := admitted.lt_output_cols
  rw [show (Geometry.data ⟨.ofShape data, .ofShape filters, stride⟩).dims = data from dims]
    at lastRow lastCol
  refine ⟨admitted.dense.accepted, ?_, ?_, lastRow, lastCol, fun sample filter row col within => ?_⟩
  · exact congrArg Run.answer (run_direct admitted fits workspace)
  · exact congrArg Run.answer (run_direct admitted.dense denseFits unused)
  · have chosen := admitted.chosen_within within
    refine ⟨chosen, ?_⟩
    have here := read_directForward admitted fits workspace within
    have there := read_directForward admitted.dense denseFits unused chosen
    rw [Geometry.forwardTerms_chosen] at there
    exact here.trans there.symm

-- Two taps by three on three rows of five: the last chosen output lies in the last row, and
-- both a NaN and an infinity are read for it.
theorem striding_is_subsampling_nan :
    let nan := Float32.ofBits 0x7fc00000
    let geometry : Geometry := ⟨.ofShape ⟨1, 1, 3, 5⟩, .ofShape ⟨1, 1, 2, 3⟩, (2, 3)⟩
    let values : Array Float32 := #[1, 2, 3, 4, 5, nan, -0, 7, 8, 9, 10, 11, 1 / 0, nan, 14]
    let taps : Array Float32 := #[1, -2, 3, 4, -0, 1 / 0]
    let strided := run .forward .direct geometry none (Buffer.zeros 4) values taps
    let dense := run .forward .direct geometry.dense none (Buffer.zeros 15) values taps
    geometry.Fits .forward (Buffer.zeros 4) values taps ∧ strided.answer = .ok () ∧
      dense.answer = .ok () ∧
      (1 < geometry.output.dims.rows ↔ 1 * 2 < 3) ∧ (2 < geometry.output.dims.cols ↔ 2 * 3 < 5) ∧
      Buffer.read geometry.output strided.target ⟨0, 0, 1, 1⟩ =
        Buffer.read geometry.dense.output dense.target ⟨0, 0, 2, 3⟩ := by
  intro nan geometry values taps strided dense
  have accepted : Geometry.ofLayouts (.ofShape ⟨1, 1, 3, 5⟩) (.ofShape ⟨1, 1, 2, 3⟩) (2, 3) =
      .ok geometry := rfl
  have fits : geometry.Fits .forward (Buffer.zeros 4) values taps :=
    ⟨(Buffer.size_zeros 4).trans (by decide), rfl, rfl⟩
  have size : (Buffer.zeros 15 : Array Float32).size = geometry.dense.output.count :=
    (Buffer.size_zeros 15).trans (by decide)
  obtain ⟨-, answer, denseAnswer, rows, cols, each⟩ :=
    striding_is_subsampling accepted fits size none none
  exact ⟨fits, answer, denseAnswer, rows 1, cols 2, (each 0 0 1 1 (by decide)).2⟩

end TensorEngine.Conv

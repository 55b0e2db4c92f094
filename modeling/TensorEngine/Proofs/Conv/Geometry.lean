import TensorEngine.Conv.Geometry
import TensorEngine.Proofs.Layout

/-! What is known of a geometry once it has been accepted, and the layouts that the
operands of each pass have under it. -/

set_option autoImplicit false

namespace TensorEngine.Conv

namespace Geometry

/-- Row-major operands that hold something, with the same channels, and positive strides. -/
structure Admitted (geometry : Geometry) : Prop where
  data : geometry.data.RowMajor
  filters : geometry.filters.RowMajor
  dataHolds : 0 < geometry.data.count
  filtersHold : 0 < geometry.filters.count
  channels : geometry.filters.dims.channels = geometry.data.dims.channels
  rowStride : 0 < geometry.rowAxis.stride
  colStride : 0 < geometry.colAxis.stride

theorem ofLayouts_eq_ok_iff {data filters : Layout} {stride : Nat × Nat} {geometry : Geometry} :
    ofLayouts data filters stride = .ok geometry ↔
      geometry = ⟨data, filters, stride⟩ ∧ 0 < stride.1 ∧ 0 < stride.2 ∧ 0 < data.count ∧
        0 < filters.count ∧ filters.dims.channels = data.dims.channels := by
  unfold ofLayouts
  split
  · simp only [reduceCtorEq, false_iff]
    omega
  · split
    · simp only [reduceCtorEq, false_iff]
      omega
    · split
      · simp only [reduceCtorEq, false_iff]
        rintro ⟨-, -, -, -, -, same⟩
        contradiction
      · rename_i strides counts channels
        simp only [Except.ok.injEq, eq_comm (b := geometry)]
        constructor
        · exact fun same => ⟨same, by omega, by omega, by omega, by omega, not_not.mp channels⟩
        · exact fun facts => facts.1

theorem admitted_of_rowMajor {data filters : Layout} {stride : Nat × Nat} {geometry : Geometry}
    (dataRowMajor : data.RowMajor) (filtersRowMajor : filters.RowMajor)
    (accepted : ofLayouts data filters stride = .ok geometry) : geometry.Admitted := by
  obtain ⟨rfl, rows, cols, dataHolds, filtersHold, channels⟩ := ofLayouts_eq_ok_iff.mp accepted
  exact ⟨dataRowMajor, filtersRowMajor, dataHolds, filtersHold, channels, rows, cols⟩

theorem admitted_of_ofLayouts {data filters : Shape} {stride : Nat × Nat} {geometry : Geometry}
    (accepted : ofLayouts (.ofShape data) (.ofShape filters) stride = .ok geometry) :
    geometry.Admitted :=
  admitted_of_rowMajor (Layout.rowMajor_ofShape data) (Layout.rowMajor_ofShape filters) accepted

theorem Admitted.accepted {geometry : Geometry} (admitted : geometry.Admitted) :
    ofLayouts geometry.data geometry.filters geometry.stride = .ok geometry :=
  ofLayouts_eq_ok_iff.mpr ⟨rfl, admitted.rowStride, admitted.colStride, admitted.dataHolds,
    admitted.filtersHold, admitted.channels⟩

def target (geometry : Geometry) : Pass → Layout
  | .forward => geometry.output
  | .backwardData => geometry.data
  | .backwardFilter => geometry.filters

def first (geometry : Geometry) : Pass → Layout
  | .forward => geometry.data
  | .backwardData | .backwardFilter => geometry.output

def second (geometry : Geometry) : Pass → Layout
  | .forward | .backwardData => geometry.filters
  | .backwardFilter => geometry.data

/-- Operands of a pass have the lengths that the geometry prescribes. -/
structure Fits {α : Type} (geometry : Geometry) (pass : Pass)
    (target first second : Array α) : Prop where
  target : target.size = (geometry.target pass).count
  first : first.size = (geometry.first pass).count
  second : second.size = (geometry.second pass).count

theorem output_rowMajor (geometry : Geometry) : geometry.output.RowMajor :=
  Layout.rowMajor_ofShape _

variable {geometry : Geometry}

-- How the operands are laid out plays no part in the shape of the output.
theorem output_dims_of_count (dataHolds : 0 < geometry.data.count)
    (filtersHold : 0 < geometry.filters.count) :
    geometry.output.dims = ⟨geometry.data.dims.samples, geometry.filters.dims.samples,
      geometry.rowAxis.outputs, geometry.colAxis.outputs⟩ := by
  obtain ⟨samples, -, -, -⟩ := Shape.pos_of_count dataHolds
  obtain ⟨filters, -, -, -⟩ := Shape.pos_of_count filtersHold
  have rows : 0 < geometry.rowAxis.outputs := Nat.add_pos_left Nat.one_pos _
  have cols : 0 < geometry.colAxis.outputs := Nat.add_pos_left Nat.one_pos _
  unfold output
  rw [Layout.dims_ofShape]
  exact Shape.collapse_of_pos samples filters rows cols

theorem Admitted.output_dims (admitted : geometry.Admitted) :
    geometry.output.dims = ⟨geometry.data.dims.samples, geometry.filters.dims.samples,
      geometry.rowAxis.outputs, geometry.colAxis.outputs⟩ :=
  output_dims_of_count admitted.dataHolds admitted.filtersHold

theorem Admitted.output_samples (admitted : geometry.Admitted) :
    geometry.output.dims.samples = geometry.data.dims.samples := by rw [admitted.output_dims]

theorem Admitted.output_channels (admitted : geometry.Admitted) :
    geometry.output.dims.channels = geometry.filters.dims.samples := by rw [admitted.output_dims]

theorem Admitted.outputHolds (admitted : geometry.Admitted) : 0 < geometry.output.count := by
  obtain ⟨samples, -, -, -⟩ := Shape.pos_of_count admitted.dataHolds
  obtain ⟨filters, -, -, -⟩ := Shape.pos_of_count admitted.filtersHold
  have rows : 0 < geometry.rowAxis.outputs := Nat.add_pos_left Nat.one_pos _
  have cols : 0 < geometry.colAxis.outputs := Nat.add_pos_left Nat.one_pos _
  unfold Layout.count
  rw [admitted.output_dims]
  exact Nat.mul_pos (Nat.mul_pos (Nat.mul_pos samples filters) rows) cols

theorem Admitted.target_rowMajor (admitted : geometry.Admitted) (pass : Pass) :
    (geometry.target pass).RowMajor :=
  match pass with
  | .forward => geometry.output_rowMajor
  | .backwardData => admitted.data
  | .backwardFilter => admitted.filters

end Geometry

end TensorEngine.Conv

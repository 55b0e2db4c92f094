import TensorEngine.Proofs.Conv.Equivalence

/-! The gradients are the adjoints of the forward pass. Every pass is the trilinear
form of the geometry with one argument left open, so pairing its result with that
argument gives the form again. -/

set_option autoImplicit false

namespace TensorEngine

variable {α : Type} [CommSemiring α]

/-- Sum of the products of matching cells. -/
def Buffer.pairing (count : Nat) (left right : Array α) : α :=
  ∑ i ∈ Finset.range count, Buffer.cell left i * Buffer.cell right i

theorem Buffer.pairing_comm (count : Nat) (left right : Array α) :
    Buffer.pairing count left right = Buffer.pairing count right left :=
  Finset.sum_congr rfl fun _ _ => mul_comm _ _

theorem Buffer.pairing_eq_sum_positions {layout : Layout} (rowMajor : layout.RowMajor)
    (storage : Array α) {result : Array α} {value : Index → α}
    (each : ∀ i < layout.count, Buffer.cell result i = value (layout.position i)) :
    Buffer.pairing layout.count storage result =
      ∑ index ∈ layout.dims.positions, Buffer.read layout storage index * value index := by
  unfold Buffer.pairing
  rw [rowMajor.sum_count]
  refine Finset.sum_congr rfl fun index member => ?_
  have within := Shape.mem_positions.mp member
  rw [each _ (rowMajor.offset_lt within), rowMajor.position_offset within]
  rfl

namespace Conv

variable {geometry : Geometry}

theorem Geometry.pairing_output (geometry : Geometry) (data filters gradient : Array α)
    {output : Array α} (target : output.size = geometry.output.count) :
    Buffer.pairing geometry.output.count gradient (geometry.result .forward output data filters) =
      geometry.form (Buffer.read geometry.filters filters) (Buffer.read geometry.data data)
        (Buffer.read geometry.output gradient) := by
  have each : ∀ flat < geometry.output.count,
    Buffer.cell (geometry.result .forward output data filters) flat =
      geometry.outputShare (Buffer.read geometry.filters filters) (Buffer.read geometry.data data)
        (geometry.output.position flat) := fun flat inside =>
    geometry.cell_result .forward output data filters (target ▸ inside)
  rw [Buffer.pairing_eq_sum_positions geometry.output_rowMajor gradient each]
  exact geometry.sum_outputShare _ _ _

theorem Geometry.Admitted.pairing_dataGradient (admitted : geometry.Admitted)
    (data filters gradient : Array α) :
    Buffer.pairing geometry.data.count data
        (geometry.result .backwardData (Buffer.zeros geometry.data.count) gradient filters) =
      geometry.form (Buffer.read geometry.filters filters) (Buffer.read geometry.data data)
        (Buffer.read geometry.output gradient) := by
  have each : ∀ flat < geometry.data.count,
      Buffer.cell (geometry.result .backwardData
        (Buffer.zeros geometry.data.count) gradient filters) flat =
        geometry.dataShare (Buffer.read geometry.filters filters)
          (Buffer.read geometry.output gradient) (geometry.data.position flat) := by
    intro flat inside
    rw [geometry.cell_result _ _ _ _ (by simpa using inside), Buffer.zeros_eq_cells,
      Buffer.cell_cells _ inside, zero_add]
    rfl
  rw [Buffer.pairing_eq_sum_positions admitted.data data each]
  exact geometry.sum_dataShare _ _ _

theorem Geometry.Admitted.pairing_filterGradient (admitted : geometry.Admitted)
    (data filters gradient : Array α) {filterGradient : Array α}
    (target : filterGradient.size = geometry.filters.count) :
    Buffer.pairing geometry.filters.count filters
      (geometry.result .backwardFilter filterGradient gradient data) =
      geometry.form (Buffer.read geometry.filters filters) (Buffer.read geometry.data data)
        (Buffer.read geometry.output gradient) := by
  have each : ∀ flat < geometry.filters.count,
      Buffer.cell (geometry.result .backwardFilter filterGradient gradient data) flat =
        geometry.filterShare (Buffer.read geometry.data data) (Buffer.read geometry.output gradient)
          (geometry.filters.position flat) := fun flat inside =>
    geometry.cell_result .backwardFilter filterGradient gradient data (target ▸ inside)
  rw [Buffer.pairing_eq_sum_positions admitted.filters filters each]
  exact geometry.sum_filterShare _ _ _

variable [MatrixProduct α] [MatrixProduct.Exact α]

/-- Output paired with the output gradient, data with its gradient and filters with
theirs are one number. The gradients do not take what they are paired with, so both
are the gradient of that number. -/
theorem gradients_adjoint_to_forward {dataShape filterShape : Shape} {stride : Nat × Nat}
    (accepted : Geometry.ofLayouts (.ofShape dataShape) (.ofShape filterShape) stride =
      .ok geometry)
    {algorithm : Pass → Algorithm} {workspace : Pass → Option (Array α)}
    (served : ∀ pass, (algorithm pass).Served geometry (workspace pass))
    {data filters gradient output filterGradient : Array α}
    (forward : geometry.Fits .forward output data filters)
    (backward : geometry.Fits .backwardFilter filterGradient gradient data) :
    let y := run .forward (algorithm .forward) geometry (workspace .forward) output data filters
    let dx := run .backwardData (algorithm .backwardData) geometry (workspace .backwardData)
      (Buffer.zeros geometry.data.count) gradient filters
    let dw := run .backwardFilter (algorithm .backwardFilter) geometry (workspace .backwardFilter)
      filterGradient gradient data
    y.answer = .ok () ∧ dx.answer = .ok () ∧ dw.answer = .ok () ∧
      Buffer.pairing geometry.output.count y.target gradient =
        Buffer.pairing geometry.data.count data dx.target ∧
      Buffer.pairing geometry.data.count data dx.target =
        Buffer.pairing geometry.filters.count filters dw.target := by
  intro y dx dw
  have admitted := Geometry.admitted_of_ofLayouts accepted
  have zeros : geometry.Fits .backwardData (Buffer.zeros geometry.data.count) gradient filters :=
    ⟨Buffer.size_zeros _, backward.first, forward.second⟩
  obtain ⟨yAnswer, yTarget⟩ := run_eq_result admitted forward (served .forward)
  obtain ⟨dxAnswer, dxTarget⟩ := run_eq_result admitted zeros (served .backwardData)
  obtain ⟨dwAnswer, dwTarget⟩ := run_eq_result admitted backward (served .backwardFilter)
  have output := geometry.pairing_output data filters gradient forward.target
  have dataGradient := admitted.pairing_dataGradient data filters gradient
  have filterGradient := admitted.pairing_filterGradient data filters gradient backward.target
  refine ⟨yAnswer, dxAnswer, dwAnswer, ?_, ?_⟩
  · rw [yTarget, dxTarget, Buffer.pairing_comm, output, dataGradient]
  · rw [dxTarget, dwTarget, dataGradient, filterGradient]

theorem gradients_adjoint_to_forward_integers :
    let geometry : Geometry := ⟨.ofShape ⟨1, 2, 3, 4⟩, .ofShape ⟨2, 2, 2, 3⟩, (1, 3)⟩
    let data : Array Int := Buffer.cells 24 fun i => (i : Int) * i - 7
    let filters : Array Int := Buffer.cells 24 fun i => 3 * (i : Int) - 4
    let gradient : Array Int := Buffer.cells 12 fun i => 5 - (i : Int)
    let scratch : Option (Array Int) := some (Array.replicate 80 9)
    let y := run .forward .lowered geometry scratch gradient data filters
    let dx :=
      run .backwardData .direct geometry scratch (Buffer.zeros geometry.data.count) gradient filters
    let dw := run .backwardFilter .lowered geometry scratch data gradient data
    Buffer.pairing geometry.output.count y.target gradient =
      Buffer.pairing geometry.data.count data dx.target ∧
      Buffer.pairing geometry.data.count data dx.target =
        Buffer.pairing geometry.filters.count filters dw.target := by
  intro geometry data filters gradient scratch y dx dw
  have accepted : Geometry.ofLayouts (.ofShape ⟨1, 2, 3, 4⟩) (.ofShape ⟨2, 2, 2, 3⟩) (1, 3) =
      .ok geometry := rfl
  have forward : geometry.Fits .forward gradient data filters :=
    ⟨(Buffer.size_cells ..).trans (by decide), Buffer.size_cells .., Buffer.size_cells ..⟩
  have backward : geometry.Fits .backwardFilter data gradient data :=
    ⟨Buffer.size_cells .., (Buffer.size_cells ..).trans (by decide), Buffer.size_cells ..⟩
  let algorithm : Pass → Algorithm := fun pass => if pass = .backwardData then .direct else .lowered
  have served : ∀ pass, (algorithm pass).Served geometry scratch :=
    fun _ _ => ⟨Array.replicate 80 9, rfl, by decide⟩
  have adjoint := gradients_adjoint_to_forward accepted served forward backward
  exact adjoint.2.2.2

end Conv

end TensorEngine

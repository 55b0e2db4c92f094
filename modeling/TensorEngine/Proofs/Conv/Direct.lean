import TensorEngine.Conv.Kernel
import TensorEngine.Proofs.Conv.Incidence

/-! Direct convolution. Its sums stay inside their operands, whatever the scalars are,
and in exact arithmetic they are the shares of the trilinear form. -/

set_option autoImplicit false

namespace TensorEngine.Conv

variable {α : Type} {geometry : Geometry}

namespace Geometry

variable (admitted : geometry.Admitted)

include admitted

theorem Admitted.forwardTerms_inside {output : Index}
    (within : output.Within geometry.output.dims) :
    ∀ pair ∈ geometry.forwardTerms output, pair.1 < geometry.filters.count ∧
      pair.2 < geometry.data.count := by
  rw [admitted.output_dims] at within
  obtain ⟨sample, filter, -, -⟩ := within
  unfold forwardTerms
  simp only [List.mem_flatMap, List.mem_range, mem_sweep]
  rintro pair ⟨channel, inChannels, row, inRows, atRow, rowFound, col, inCols, atCol, colFound, rfl⟩
  have dataRow := ((Axis.input?_eq_some_iff_meets atRow).mp rowFound).2
  have dataCol := ((Axis.input?_eq_some_iff_meets atCol).mp colFound).2
  exact ⟨admitted.filters.offset_lt ⟨filter, inChannels, inRows, inCols⟩,
    admitted.data.offset_lt ⟨sample, admitted.channels ▸ inChannels, dataRow, dataCol⟩⟩

theorem Admitted.dataTerms_inside {element : Index} (within : element.Within geometry.data.dims) :
    ∀ pair ∈ geometry.dataTerms element, pair.1 < geometry.filters.count ∧
      pair.2 < geometry.output.count := by
  obtain ⟨sample, channel, -, -⟩ := within
  unfold dataTerms
  simp only [List.mem_flatMap, List.mem_range, mem_sweep]
  rintro pair ⟨filter, inFilters, row, inRows, atRow, rowFound, col, inCols, atCol, colFound, rfl⟩
  have outRow := ((Axis.output?_eq_some_iff_meets admitted.rowStride atRow).mp rowFound).2
  have outCol := ((Axis.output?_eq_some_iff_meets admitted.colStride atCol).mp colFound).2
  refine ⟨admitted.filters.offset_lt ⟨inFilters, admitted.channels ▸ channel, inRows, inCols⟩,
    geometry.output_rowMajor.offset_lt ?_⟩
  rw [admitted.output_dims]
  exact ⟨sample, inFilters, outRow, outCol⟩

theorem Admitted.filterTerms_inside {tap : Index} (within : tap.Within geometry.filters.dims) :
    ∀ pair ∈ geometry.filterTerms tap, pair.1 < geometry.output.count ∧
      pair.2 < geometry.data.count := by
  obtain ⟨filter, channel, -, -⟩ := within
  unfold filterTerms
  simp only [List.mem_flatMap, List.mem_range, mem_sweep]
  rintro pair ⟨sample, inSamples, row, inRows, atRow, rowFound, col, inCols, atCol, colFound, rfl⟩
  have dataRow := ((Axis.input?_eq_some_iff_meets atRow).mp rowFound).2
  have dataCol := ((Axis.input?_eq_some_iff_meets atCol).mp colFound).2
  have outSample := Nat.lt_of_lt_of_eq inSamples admitted.output_samples.symm
  have outChannel := Nat.lt_of_lt_of_eq filter admitted.output_channels.symm
  exact ⟨geometry.output_rowMajor.offset_lt ⟨outSample, outChannel, inRows, inCols⟩,
    admitted.data.offset_lt ⟨inSamples, admitted.channels ▸ channel, dataRow, dataCol⟩⟩

section

variable {β : Type} [AddCommMonoid β] (term : Nat × Nat → β)

theorem Admitted.sum_forwardTerms {output : Index} (within : output.Within geometry.output.dims) :
    ((geometry.forwardTerms output).map term).sum =
      ∑ tap ∈ geometry.filters.dims.positions, ∑ element ∈ geometry.data.dims.positions,
        if geometry.Reads output tap element then
          term (geometry.filters.offset tap, geometry.data.offset element) else 0 := by
  rw [admitted.sum_reads_of_output within fun tap element =>
    term (geometry.filters.offset tap, geometry.data.offset element)]
  unfold forwardTerms
  rw [sum_flatMap_range]
  refine Finset.sum_congr rfl fun channel _ => ?_
  rw [sum_sweep]
  rfl

theorem Admitted.sum_filterTerms {tap : Index} (within : tap.Within geometry.filters.dims) :
    ((geometry.filterTerms tap).map term).sum =
      ∑ output ∈ geometry.output.dims.positions, ∑ element ∈ geometry.data.dims.positions,
        if geometry.Reads output tap element then
          term (geometry.output.offset output, geometry.data.offset element) else 0 := by
  rw [admitted.sum_reads_of_tap within fun output element =>
    term (geometry.output.offset output, geometry.data.offset element)]
  unfold filterTerms
  rw [sum_flatMap_range]
  refine Finset.sum_congr rfl fun sample _ => ?_
  rw [sum_sweep, admitted.output_dims]
  rfl

end

section

variable [CommSemiring α] (data filters gradient : Array α)

theorem Admitted.sumAlong_forwardTerms {output : Index}
    (within : output.Within geometry.output.dims) :
    Buffer.sumAlong filters data (geometry.forwardTerms output) =
      geometry.outputShare (Buffer.read geometry.filters filters)
        (Buffer.read geometry.data data) output := by
  rw [Buffer.sumAlong_eq_sum, admitted.sum_forwardTerms _ within]
  rfl

theorem Admitted.sumAlong_dataTerms {element : Index} (within : element.Within geometry.data.dims) :
    Buffer.sumAlong filters gradient (geometry.dataTerms element) =
      geometry.dataShare (Buffer.read geometry.filters filters)
        (Buffer.read geometry.output gradient) element := by
  unfold dataTerms
  rw [Buffer.sumAlong_eq_sum, sum_flatMap_range, admitted.dataShare_eq _ _ within]
  refine Finset.sum_congr rfl fun filter _ => ?_
  rw [sum_sweep]
  refine Finset.sum_congr rfl fun row _ => Finset.sum_congr rfl fun col _ => ?_
  rw [← mul_reached]
  rfl

theorem Admitted.sumAlong_filterTerms {tap : Index} (within : tap.Within geometry.filters.dims) :
    Buffer.sumAlong gradient data (geometry.filterTerms tap) =
      geometry.filterShare (Buffer.read geometry.data data)
        (Buffer.read geometry.output gradient) tap := by
  rw [Buffer.sumAlong_eq_sum, admitted.sum_filterTerms _ within]
  rfl

end

end Geometry

theorem wholePlanes_of_size {storage : Array α} {layout : Layout} (holds : 0 < layout.count)
    (size : storage.size = layout.count) : wholePlanes storage layout = true := by
  obtain ⟨-, -, rows, cols⟩ := Shape.pos_of_count holds
  have plane : 0 < layout.plane := Nat.mul_pos rows cols
  simp [wholePlanes, size, layout.count_eq_planes, Nat.pos_iff_ne_zero.mp plane]

section

variable [Zero α] [Add α] [Mul α]

/-- Value of one element under the direct algorithm, with its terms in their order. -/
def directCell (geometry : Geometry) (pass : Pass) (target first second : Array α)
    (flat : Nat) : α :=
  match pass with
  | .forward => Buffer.sumAlong second first (geometry.forwardTerms (geometry.output.position flat))
  | .backwardData => Buffer.cell target flat +
      Buffer.sumAlong second first (geometry.dataTerms (geometry.data.position flat))
  | .backwardFilter =>
    Buffer.sumAlong first second (geometry.filterTerms (geometry.filters.position flat))

/-- With operands of the prescribed lengths the direct algorithm always has a result. -/
theorem runDirect_eq_some (admitted : geometry.Admitted) {pass : Pass}
    {target first second : Array α} (fits : geometry.Fits pass target first second) :
    runDirect pass geometry target first second =
      some (Buffer.cells target.size (directCell geometry pass target first second)) := by
  obtain ⟨targetSize, firstSize, secondSize⟩ := fits
  have within : ∀ flat < target.size,
      ((geometry.target pass).position flat).Within (geometry.target pass).dims :=
    fun flat inside => (admitted.target_rowMajor pass).position_within (targetSize ▸ inside)
  cases pass with
  | forward =>
    have planes : wholePlanes target geometry.output = true :=
      wholePlanes_of_size admitted.outputHolds targetSize
    change forwardDirect geometry target first second = _
    unfold forwardDirect
    rw [if_pos planes]
    refine Buffer.tabulate_eq_some fun flat inside => ?_
    rw [geometry.output_rowMajor.planePosition_eq]
    apply Buffer.dotAlong_eq_some
    rw [firstSize, secondSize]
    exact admitted.forwardTerms_inside (within flat inside)
  | backwardData =>
    have planes : wholePlanes target geometry.data = true :=
      wholePlanes_of_size admitted.dataHolds targetSize
    change dataGradientDirect geometry target first second = _
    unfold dataGradientDirect
    rw [if_pos planes]
    refine Buffer.tabulate_eq_some fun flat inside => ?_
    rw [admitted.data.planePosition_eq, Buffer.getElem?_eq_cell inside, Buffer.dotAlong_eq_some]
    · rfl
    · rw [firstSize, secondSize]
      exact admitted.dataTerms_inside (within flat inside)
  | backwardFilter =>
    refine Buffer.tabulate_eq_some fun flat inside => ?_
    apply Buffer.dotAlong_eq_some
    rw [firstSize, secondSize]
    exact admitted.filterTerms_inside (within flat inside)

theorem run_direct [One α] [MatrixProduct α] (admitted : geometry.Admitted) {pass : Pass}
    {target first second : Array α} (fits : geometry.Fits pass target first second)
    (workspace : Option (Array α)) :
    run pass .direct geometry workspace target first second =
      ⟨.ok (), Buffer.cells target.size (directCell geometry pass target first second),
        workspace⟩ := by
  change Run.ofTarget workspace target (runDirect pass geometry target first second) = _
  rw [runDirect_eq_some admitted fits]
  rfl

end

/-- In exact arithmetic the direct algorithm leaves the result of the pass. -/
theorem runDirect_eq_result [CommSemiring α] (admitted : geometry.Admitted) {pass : Pass}
    {target first second : Array α} (fits : geometry.Fits pass target first second) :
    runDirect pass geometry target first second =
      some (geometry.result pass target first second) := by
  rw [runDirect_eq_some admitted fits]
  refine congrArg some (Buffer.cells_congr fun flat inside => ?_)
  have within := (admitted.target_rowMajor pass).position_within (fits.target ▸ inside)
  cases pass with
  | forward => exact admitted.sumAlong_forwardTerms _ _ within
  | backwardData => exact congrArg _ (admitted.sumAlong_dataTerms _ _ within)
  | backwardFilter => exact admitted.sumAlong_filterTerms _ _ within

end TensorEngine.Conv

import TensorEngine.Proofs.Conv.Incidence

/-! The column matrix of a sample: which tap a row stands for, which output a column
stands for, and sums over rows and columns as sums over taps and outputs. -/

set_option autoImplicit false

namespace TensorEngine.Conv.Geometry

variable {α β : Type} [AddCommMonoid β] (geometry : Geometry)

/-- The tap of a filter that a row of the column matrix stands for. -/
def tapAt (filter row : Nat) : Index :=
  ⟨filter, row / geometry.planeTaps, row % geometry.planeTaps / geometry.filters.dims.cols,
    row % geometry.filters.dims.cols⟩

/-- The output of a filter that a column of the column matrix stands for. -/
def outputAt (sample filter location : Nat) : Index :=
  ⟨sample, filter, location / geometry.output.dims.cols, location % geometry.output.dims.cols⟩

theorem tapAt_plane {filter channel tap : Nat} (inPlane : tap < geometry.planeTaps) :
    geometry.tapAt filter (channel * geometry.planeTaps + tap) =
      ⟨filter, channel, tap / geometry.filters.dims.cols, tap % geometry.filters.dims.cols⟩ := by
  have last : (channel * geometry.planeTaps + tap) % geometry.filters.dims.cols =
      tap % geometry.filters.dims.cols := by
    unfold planeTaps
    rw [← Nat.mul_assoc, Nat.mul_comm, Nat.mul_add_mod]
  unfold tapAt
  rw [place_div inPlane, place_mod inPlane, last]

theorem tapAt_place {filter channel row col : Nat} (inRows : row < geometry.filters.dims.rows)
    (inCols : col < geometry.filters.dims.cols) :
    geometry.tapAt filter
      ((channel * geometry.filters.dims.rows + row) * geometry.filters.dims.cols + col) =
      ⟨filter, channel, row, col⟩ := by
  have regroup : (channel * geometry.filters.dims.rows + row) * geometry.filters.dims.cols + col =
      channel * geometry.planeTaps + (row * geometry.filters.dims.cols + col) := by
    unfold planeTaps
    ring
  rw [regroup, geometry.tapAt_plane (place_lt inRows inCols), place_div inCols, place_mod inCols]

theorem outputAt_place {sample filter row col : Nat} (inCols : col < geometry.output.dims.cols) :
    geometry.outputAt sample filter (row * geometry.output.dims.cols + col) =
      ⟨sample, filter, row, col⟩ := by
  unfold outputAt
  rw [place_div inCols, place_mod inCols]

theorem sum_columnRows (filter : Nat) (f : Index → β) :
    ∑ row ∈ Finset.range geometry.columnRows, f (geometry.tapAt filter row) =
      ∑ channel ∈ Finset.range geometry.filters.dims.channels,
        ∑ row ∈ Finset.range geometry.filters.dims.rows,
          ∑ col ∈ Finset.range geometry.filters.dims.cols,
          f ⟨filter, channel, row, col⟩ := by
  unfold columnRows
  rw [sum_range_mul, sum_range_mul]
  refine Finset.sum_congr rfl fun channel _ => Finset.sum_congr rfl fun row inRows =>
    Finset.sum_congr rfl fun col inCols => ?_
  rw [geometry.tapAt_place (Finset.mem_range.mp inRows) (Finset.mem_range.mp inCols)]

theorem sum_taps (f : Index → β) :
    ∑ tap ∈ geometry.filters.dims.positions, f tap =
      ∑ filter ∈ Finset.range geometry.filters.dims.samples,
        ∑ row ∈ Finset.range geometry.columnRows,
        f (geometry.tapAt filter row) := by
  rw [Shape.sum_positions]
  exact Finset.sum_congr rfl fun filter _ => (geometry.sum_columnRows filter f).symm

theorem sum_columnCols (sample filter : Nat) (f : Index → β) :
    ∑ location ∈ Finset.range geometry.columnCols, f (geometry.outputAt sample filter location) =
      ∑ row ∈ Finset.range geometry.output.dims.rows,
        ∑ col ∈ Finset.range geometry.output.dims.cols,
        f ⟨sample, filter, row, col⟩ := by
  unfold columnCols Layout.plane Shape.plane
  rw [sum_range_mul]
  refine Finset.sum_congr rfl fun row _ => Finset.sum_congr rfl fun col inCols => ?_
  rw [geometry.outputAt_place (Finset.mem_range.mp inCols)]

variable {geometry}

theorem offset_tapAt (rowMajor : geometry.filters.RowMajor) (filter row : Nat) :
    geometry.filters.offset (geometry.tapAt filter row) = filter * geometry.columnRows + row := by
  have inPlane : row % geometry.planeTaps / geometry.filters.dims.cols *
      geometry.filters.dims.cols + row % geometry.filters.dims.cols = row % geometry.planeTaps := by
    have last : row % geometry.filters.dims.cols =
        row % geometry.planeTaps % geometry.filters.dims.cols :=
      (Nat.mod_mul_left_mod row _ _).symm
    rw [last, Nat.div_add_mod']
  rw [rowMajor.offset_eq]
  unfold tapAt columnRows
  calc _ = filter * (geometry.filters.dims.channels * geometry.filters.dims.rows *
    geometry.filters.dims.cols) +
      (row / geometry.planeTaps * geometry.planeTaps +
        (row % geometry.planeTaps / geometry.filters.dims.cols * geometry.filters.dims.cols +
          row % geometry.filters.dims.cols)) := by unfold planeTaps; ring
    _ = _ := by rw [inPlane, Nat.div_add_mod']

theorem offset_outputAt (sample filter location : Nat) :
    geometry.output.offset (geometry.outputAt sample filter location) =
      (sample * geometry.output.dims.channels + filter) * geometry.columnCols + location := by
  rw [geometry.output_rowMajor.offset_eq]
  unfold outputAt columnCols Layout.plane Shape.plane
  calc _ = (sample * geometry.output.dims.channels + filter) *
        (geometry.output.dims.rows * geometry.output.dims.cols) +
      (location / geometry.output.dims.cols * geometry.output.dims.cols +
        location % geometry.output.dims.cols) := by ring
    _ = _ := by rw [Nat.div_add_mod']

variable (admitted : geometry.Admitted)

include admitted

theorem Admitted.tapAt_within {filter row : Nat}
    (inFilters : filter < geometry.filters.dims.samples) (inRows : row < geometry.columnRows) :
    (geometry.tapAt filter row).Within geometry.filters.dims := by
  obtain ⟨-, -, rows, cols⟩ := Shape.pos_of_count admitted.filtersHold
  have plane : 0 < geometry.planeTaps := Nat.mul_pos rows cols
  refine ⟨inFilters, ?_, ?_, Nat.mod_lt _ cols⟩
  · apply Nat.div_lt_of_lt_mul
    calc row < geometry.columnRows := inRows
      _ = _ := by unfold columnRows planeTaps; ring
  · apply Nat.div_lt_of_lt_mul
    rw [Nat.mul_comm]
    exact Nat.mod_lt _ plane

theorem Admitted.outputAt_within {sample filter location : Nat}
    (inSamples : sample < geometry.data.dims.samples)
    (inFilters : filter < geometry.filters.dims.samples) (inCols : location < geometry.columnCols) :
    (geometry.outputAt sample filter location).Within geometry.output.dims := by
  obtain ⟨-, -, rows, cols⟩ := Shape.pos_of_count admitted.outputHolds
  refine ⟨?_, ?_, ?_, Nat.mod_lt _ cols⟩
  · exact Nat.lt_of_lt_of_eq inSamples admitted.output_samples.symm
  · exact Nat.lt_of_lt_of_eq inFilters admitted.output_channels.symm
  · apply Nat.div_lt_of_lt_mul
    rw [Nat.mul_comm]
    exact inCols

-- The outputs that read a data element through a tap are among those of the tap's
-- filter in the element's sample.
theorem Admitted.sum_reads_outputAt {element tap : Index}
    (sample : element.sample < geometry.data.dims.samples)
    (filter : tap.sample < geometry.filters.dims.samples) (f : Index → β) :
    ∑ output ∈ geometry.output.dims.positions,
      (if geometry.Reads output tap element then f output else 0) =
      ∑ location ∈ Finset.range geometry.columnCols,
        if geometry.Reads (geometry.outputAt element.sample tap.sample location) tap element then
          f (geometry.outputAt element.sample tap.sample location) else 0 := by
  have inSamples : element.sample ∈ Finset.range geometry.output.dims.samples :=
    Finset.mem_range.mpr (Nat.lt_of_lt_of_eq sample admitted.output_samples.symm)
  have inFilters : tap.sample ∈ Finset.range geometry.output.dims.channels :=
    Finset.mem_range.mpr (Nat.lt_of_lt_of_eq filter admitted.output_channels.symm)
  rw [Shape.sum_positions, Finset.sum_eq_single_of_mem _ inSamples,
    Finset.sum_eq_single_of_mem _ inFilters,
    ← geometry.sum_columnCols element.sample tap.sample fun output =>
      if geometry.Reads output tap element then f output else 0]
  · intro other _ different
    refine Finset.sum_eq_zero fun row _ => Finset.sum_eq_zero fun col _ => if_neg fun reads => ?_
    exact different reads.1.symm
  · intro other _ different
    refine Finset.sum_eq_zero fun channel _ => Finset.sum_eq_zero fun row _ =>
      Finset.sum_eq_zero fun col _ => if_neg fun reads => ?_
    exact different reads.2.1.symm

omit admitted

section

variable [CommSemiring α] (filters data gradient : Index → α)

include admitted

theorem Admitted.outputShare_outputAt {sample filter location : Nat}
    (inSamples : sample < geometry.data.dims.samples)
    (inFilters : filter < geometry.filters.dims.samples) (inCols : location < geometry.columnCols) :
    geometry.outputShare filters data (geometry.outputAt sample filter location) =
      ∑ row ∈ Finset.range geometry.columnRows, filters (geometry.tapAt filter row) *
        geometry.tapped data (geometry.outputAt sample 0 location) (geometry.tapAt 0 row) := by
  rw [admitted.outputShare_eq _ _ (admitted.outputAt_within inSamples inFilters inCols)]
  exact (geometry.sum_columnRows filter fun tap =>
    filters tap * geometry.tapped data (geometry.outputAt sample 0 location) tap).symm

theorem Admitted.filterShare_samples {tap : Index} (within : tap.Within geometry.filters.dims) :
    geometry.filterShare data gradient tap =
      ∑ sample ∈ Finset.range geometry.data.dims.samples,
        ∑ location ∈ Finset.range geometry.columnCols,
        gradient (geometry.outputAt sample tap.sample location) *
          geometry.tapped data (geometry.outputAt sample 0 location) tap := by
  rw [admitted.filterShare_eq _ _ within]
  refine Finset.sum_congr rfl fun sample _ => ?_
  have summed := geometry.sum_columnCols sample tap.sample fun output =>
    gradient output * geometry.tapped data output tap
  rw [admitted.output_dims] at summed
  exact summed.symm

theorem Admitted.dataShare_columns {element : Index} (within : element.Within geometry.data.dims) :
    geometry.dataShare filters gradient element =
      ∑ row ∈ Finset.range geometry.columnRows, ∑ location ∈ Finset.range geometry.columnCols,
        if geometry.Reads (geometry.outputAt element.sample 0 location)
            (geometry.tapAt 0 row) element then
          ∑ filter ∈ Finset.range geometry.filters.dims.samples,
            filters (geometry.tapAt filter row) *
              gradient (geometry.outputAt element.sample filter location)
        else 0 := by
  have perTap : ∀ tap ∈ geometry.filters.dims.positions,
      (∑ output ∈ geometry.output.dims.positions,
        if geometry.Reads output tap element then filters tap * gradient output else 0) =
      ∑ location ∈ Finset.range geometry.columnCols,
        if geometry.Reads (geometry.outputAt element.sample tap.sample location) tap element then
          filters tap * gradient (geometry.outputAt element.sample tap.sample location) else 0 :=
    fun tap inside => admitted.sum_reads_outputAt within.1 (Shape.mem_positions.mp inside).1 _
  unfold dataShare
  rw [Finset.sum_congr rfl perTap, geometry.sum_taps, Finset.sum_comm]
  refine Finset.sum_congr rfl fun row _ => ?_
  rw [Finset.sum_comm]
  refine Finset.sum_congr rfl fun location _ => ?_
  -- Which filter is tried does not change which elements are read.
  have sameReads : ∀ filter, geometry.Reads (geometry.outputAt element.sample filter location)
      (geometry.tapAt filter row) element ↔
        geometry.Reads (geometry.outputAt element.sample 0 location)
          (geometry.tapAt 0 row) element := by
    intro filter
    simp [Reads, outputAt, tapAt]
  by_cases reads : geometry.Reads (geometry.outputAt element.sample 0 location)
    (geometry.tapAt 0 row) element
  · rw [if_pos reads]
    exact Finset.sum_congr rfl fun filter _ => if_pos ((sameReads filter).mpr reads)
  · rw [if_neg reads]
    exact Finset.sum_eq_zero fun filter _ => if_neg fun found => reads ((sameReads filter).mp found)

end

end TensorEngine.Conv.Geometry

import TensorEngine.Conv.Lowering
import TensorEngine.Proofs.Conv.Column
import TensorEngine.Proofs.Matrix

/-! Lowering a sample and raising a column matrix. Both stay inside their sample and
visit the same triples of output, tap and data element. -/

set_option autoImplicit false

namespace TensorEngine.Conv

variable {α : Type} {geometry : Geometry}

section

variable [Zero α]

def columnEntry (geometry : Geometry) (data : Array α) (sample row location : Nat) : α :=
  geometry.tapped (Buffer.read geometry.data data) (geometry.outputAt sample 0 location)
    (geometry.tapAt 0 row)

def columnMatrix (geometry : Geometry) (data : Array α) (sample : Nat) :
    Entries α geometry.columnRows geometry.columnCols :=
  fun row location => columnEntry geometry data sample row location

theorem toStorage_columnMatrix (geometry : Geometry) (data : Array α) (sample : Nat) :
    (columnMatrix geometry data sample).toStorage =
      Buffer.cells (geometry.columnRows * geometry.columnCols) fun cell =>
        columnEntry geometry data sample (cell / geometry.columnCols)
          (cell % geometry.columnCols) :=
  Entries.toStorage_eq_cells _ fun _ _ => rfl

theorem columnEntry_eq_source (geometry : Geometry) (data : Array α) (sample row location : Nat) :
    columnEntry geometry data sample row location =
      (geometry.columnSource sample row location).elim 0 (Buffer.cell data) := by
  unfold columnEntry Geometry.tapped Geometry.columnSource
  dsimp only [Geometry.outputAt, Geometry.tapAt]
  cases geometry.rowAxis.input? (location / geometry.output.dims.cols)
      (row % geometry.planeTaps / geometry.filters.dims.cols) with
  | none => rfl
  | some dataRow =>
    cases geometry.colAxis.input? (location % geometry.output.dims.cols)
      (row % geometry.filters.dims.cols) <;> rfl

omit [Zero α] in
/-- What a cell of the column matrix is read from lies in its sample. -/
theorem Geometry.Admitted.columnSource_within (admitted : geometry.Admitted)
    {sample row location source : Nat} (inside : sample < geometry.data.dims.samples)
    (inRows : row < geometry.columnRows)
    (found : geometry.columnSource sample row location = some source) :
    ∃ element : Index, element.Within geometry.data.dims ∧ element.sample = sample ∧
      geometry.data.offset element = source := by
  obtain ⟨dataRow, rowFound, rest⟩ := Option.bind_eq_some_iff.mp found
  obtain ⟨dataCol, colFound, last⟩ := Option.bind_eq_some_iff.mp rest
  obtain ⟨filters, -, -, -⟩ := Shape.pos_of_count admitted.filtersHold
  obtain ⟨-, channel, -, -⟩ := admitted.tapAt_within filters inRows
  have inRow := ((Axis.input?_eq_some_iff_meets dataRow).mp rowFound).2
  have inCol := ((Axis.input?_eq_some_iff_meets dataCol).mp colFound).2
  exact ⟨⟨sample, _, dataRow, dataCol⟩, ⟨inside, admitted.channels ▸ channel, inRow, inCol⟩, rfl,
    Option.some.inj last⟩

theorem Geometry.Admitted.valueAt_columnSource (admitted : geometry.Admitted) {data : Array α}
    {sample row : Nat} (size : data.size = geometry.data.count)
    (inside : sample < geometry.data.dims.samples) (inRows : row < geometry.columnRows)
    (location : Nat) :
    Buffer.valueAt data (geometry.columnSource sample row location) =
      some (columnEntry geometry data sample row location) := by
  rw [columnEntry_eq_source]
  cases found : geometry.columnSource sample row location with
  | none => rfl
  | some source =>
    obtain ⟨element, within, -, rfl⟩ := admitted.columnSource_within inside inRows found
    exact Buffer.getElem?_eq_cell (size ▸ admitted.data.offset_lt within)

omit [Zero α] in
theorem Geometry.row_lt {cell : Nat} (within : cell < geometry.columnRows * geometry.columnCols) :
    cell / geometry.columnCols < geometry.columnRows :=
  Nat.div_lt_of_lt_mul (Nat.mul_comm _ _ ▸ within)

theorem lower_eq_some (admitted : geometry.Admitted) {data : Array α} {sample : Nat}
    (size : data.size = geometry.data.count) (inside : sample < geometry.data.dims.samples) :
    lower geometry data sample = some (columnMatrix geometry data sample).toStorage := by
  rw [toStorage_columnMatrix]
  exact Buffer.tabulate_eq_some fun cell within =>
    admitted.valueAt_columnSource size inside (Geometry.row_lt within) _

end

theorem Geometry.Admitted.columnRows_eq (admitted : geometry.Admitted) :
    geometry.columnRows = geometry.data.dims.channels * geometry.planeTaps := by
  rw [← admitted.channels]
  exact Nat.mul_assoc _ _ _

theorem Geometry.Admitted.columnMoves_inside (admitted : geometry.Admitted) {sample : Nat}
    (inside : sample < geometry.data.dims.samples) :
    ∀ move ∈ geometry.columnMoves sample,
      move.1 < geometry.data.count ∧ move.2 < geometry.columnRows * geometry.columnCols := by
  unfold columnMoves
  simp only [List.mem_flatMap, List.mem_range, mem_sweep]
  rintro move ⟨channel, inChannels, tap, inTaps, row, inRows, dataRow, rowFound, col, inCols,
    dataCol, colFound, rfl⟩
  have inRow := ((Axis.input?_eq_some_iff_meets dataRow).mp rowFound).2
  have inCol := ((Axis.input?_eq_some_iff_meets dataCol).mp colFound).2
  refine ⟨admitted.data.offset_lt ⟨inside, inChannels, inRow, inCol⟩, ?_⟩
  rw [admitted.columnRows_eq]
  exact place_lt (place_lt inChannels inTaps) (place_lt inRows inCols)

theorem raise_eq_some [Zero α] [Add α] (admitted : geometry.Admitted) {columns gradient : Array α}
    {sample : Nat} (size : gradient.size = geometry.data.count)
    (inside : sample < geometry.data.dims.samples)
    (room : geometry.columnRows * geometry.columnCols ≤ columns.size) :
    raise geometry columns sample gradient =
      some (Buffer.cells gradient.size
        (Buffer.collected gradient columns (geometry.columnMoves sample))) := by
  have sampleFits : (sample + 1) * geometry.data.strides.sample ≤ gradient.size := by
    rw [size, admitted.data.count_eq_samples]
    exact Nat.mul_le_mul_right _ inside
  unfold raise
  rw [if_pos ⟨sampleFits, room⟩]
  refine Buffer.scatterAdd_eq_some fun move member => ?_
  obtain ⟨target, value⟩ := admitted.columnMoves_inside inside move member
  exact ⟨size ▸ target, Nat.lt_of_lt_of_le value room⟩

namespace Geometry

variable [AddCommMonoid α]

/-- What raising a column matrix adds to a data element: the cells that stand for it. -/
def columnShare (geometry : Geometry) (columns : Array α) (sample : Nat) (element : Index) : α :=
  ∑ row ∈ Finset.range geometry.columnRows, ∑ location ∈ Finset.range geometry.columnCols,
    if geometry.Reads (geometry.outputAt sample 0 location) (geometry.tapAt 0 row) element then
      Buffer.cell columns (row * geometry.columnCols + location) else 0

-- Outputs of one sample read data of that sample only.
theorem columnShare_elsewhere (geometry : Geometry) (columns : Array α) {sample : Nat}
    {element : Index} (elsewhere : element.sample ≠ sample) :
    geometry.columnShare columns sample element = 0 :=
  Finset.sum_eq_zero fun _ _ => Finset.sum_eq_zero fun _ _ =>
    if_neg fun reads => elsewhere reads.2.1

-- What is kept at one data element reaches the outputs that read it through the tap.
theorem Admitted.tapped_single (admitted : geometry.Admitted) (output tap : Index) {element : Index}
    (sample : output.sample < geometry.data.dims.samples)
    (channel : tap.channel < geometry.data.dims.channels) (same : tap.sample = output.channel)
    (within : element.Within geometry.data.dims) (value : α) :
    geometry.tapped (fun read => if geometry.data.offset read = geometry.data.offset element
      then value else 0)
        output tap =
      if geometry.Reads output tap element then value else 0 := by
  have summed := geometry.sum_reads_data sample channel fun read =>
    if geometry.data.offset read = geometry.data.offset element then value else 0
  rw [if_pos same] at summed
  rw [← summed, Finset.sum_eq_single_of_mem element (Shape.mem_positions.mpr within), if_pos rfl]
  intro other member different
  have apart : geometry.data.offset other ≠ geometry.data.offset element := fun equal =>
    different ((admitted.data.offset_injective (Shape.mem_positions.mp member) within).mp equal)
  rw [if_neg apart, ite_self]

/-- Raising adds every cell of the column matrix to the data element that it stands for. -/
theorem Admitted.collected_columnMoves (admitted : geometry.Admitted) (columns gradient : Array α)
    {sample : Nat} (inside : sample < geometry.data.dims.samples) {element : Index}
    (within : element.Within geometry.data.dims) :
    Buffer.collected gradient columns (geometry.columnMoves sample) (geometry.data.offset element) =
      Buffer.read geometry.data gradient element + geometry.columnShare columns sample element := by
  have locations : geometry.columnCols = geometry.output.dims.rows * geometry.output.dims.cols :=
    rfl
  -- The scatter runs through channels, taps and a sweep, the right side through the
  -- matrix; splitting its rows and columns by division matches the two.
  unfold columnMoves columnShare
  rw [Buffer.collected_eq_sum, sum_flatMap_range, admitted.columnRows_eq, sum_range_mul]
  refine congrArg _ (Finset.sum_congr rfl fun channel inChannels => ?_)
  rw [sum_flatMap_range]
  refine Finset.sum_congr rfl fun tap inTaps => ?_
  rw [sum_sweep, locations, sum_range_mul]
  refine Finset.sum_congr rfl fun row _ => Finset.sum_congr rfl fun col inCols => ?_
  rw [geometry.outputAt_place (Finset.mem_range.mp inCols),
    geometry.tapAt_plane (Finset.mem_range.mp inTaps)]
  generalize (channel * geometry.planeTaps + tap) * _ +
    (row * geometry.output.dims.cols + col) = cell
  exact admitted.tapped_single ⟨sample, 0, row, col⟩ ⟨0, channel, _, _⟩ inside
    (Finset.mem_range.mp inChannels) rfl within (Buffer.cell columns cell)

end Geometry

end TensorEngine.Conv

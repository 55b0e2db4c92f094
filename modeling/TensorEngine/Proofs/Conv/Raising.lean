import TensorEngine.Proofs.Conv.Adjoint
import TensorEngine.Proofs.Conv.Batch
import TensorEngine.Proofs.Conv.Workspace
import TensorEngine.Proofs.View

/-! Raising a column matrix is adjoint to lowering a sample: the one scatters along the
triples of tap, location and data element that the other gathers along. Both keep to their
sample, and lowering leaves nothing of what was in the matrix that it fills. -/

set_option autoImplicit false

namespace TensorEngine.Conv

variable {α : Type} {geometry : Geometry}

namespace Geometry

-- Pairs (column cell, data offset) in the order in which a column matrix is filled: its
-- rows, then output rows, then output columns. In the padding there is no data offset.
def columnWrites (geometry : Geometry) (sample : Nat) : List (Nat × Option Nat) :=
  let outputs := geometry.output.dims
  (List.range geometry.columnRows).flatMap fun row =>
    (List.range outputs.rows).flatMap fun outRow =>
      (List.range outputs.cols).map fun outCol =>
        (row * geometry.columnCols + (outRow * outputs.cols + outCol), do
          let dataRow ← geometry.rowAxis.input? outRow
            (row % geometry.planeTaps / geometry.filters.dims.cols)
          let dataCol ← geometry.colAxis.input? outCol (row % geometry.filters.dims.cols)
          return geometry.data.offset ⟨sample, row / geometry.planeTaps, dataRow, dataCol⟩)

/-- The loops visit every cell of the matrix once. -/
theorem columnWrites_eq (geometry : Geometry) (sample : Nat) :
    geometry.columnWrites sample =
      (List.range (geometry.columnRows * geometry.columnCols)).map fun cell =>
        (cell, geometry.columnSource sample (cell / geometry.columnCols)
          (cell % geometry.columnCols)) := by
  have locations : geometry.columnCols = geometry.output.dims.rows * geometry.output.dims.cols :=
    rfl
  rw [← flatMap_range_map]
  unfold columnWrites
  refine List.flatMap_congr fun row _ => ?_
  calc _ = (List.range geometry.columnCols).map fun location =>
        (row * geometry.columnCols + location, geometry.columnSource sample row location) := by
        rw [locations, ← flatMap_range_map]
        refine List.flatMap_congr fun outRow _ => List.map_congr_left fun outCol inCols => ?_
        unfold columnSource
        rw [place_div (List.mem_range.mp inCols), place_mod (List.mem_range.mp inCols)]
    _ = _ := by
        refine List.map_congr_left fun location inCols => ?_
        rw [place_div (List.mem_range.mp inCols), place_mod (List.mem_range.mp inCols)]

/-- Data, a column matrix and a data gradient of the sizes that a geometry asks for. -/
structure Matches {β : Type} (geometry : Geometry) (data columns gradient : Array β) : Prop where
  data : data.size = geometry.data.count
  columns : columns.size = geometry.columnRows * geometry.columnCols
  gradient : gradient.size = geometry.data.count

end Geometry

section

variable [Zero α]

/-- What lowering a sample does. The loops that fill the matrix may run in any order, into the
front of a workspace or into a matrix of their own; of the data only the sample is read. -/
structure Lowers (geometry : Geometry) (data : Array α) (sample : Nat)
    (lowered : Array α) : Prop where
  answer : lower geometry data sample = some lowered
  size : lowered.size = geometry.columnRows * geometry.columnCols
  fills : ∀ workspace : Array α, geometry.columnRows * geometry.columnCols ≤ workspace.size →
    ∀ writes, writes.Perm (geometry.columnWrites sample) →
      Buffer.assignAlong workspace data writes = fillWorkspace geometry workspace lowered
  overwrites : ∀ before : Array α, before.size = geometry.columnRows * geometry.columnCols →
    ∀ writes, writes.Perm (geometry.columnWrites sample) →
      Buffer.assignAlong before data writes = some lowered
  reads : ∀ other : Array α,
    (∀ i, (geometry.data.position i).sample = sample → other[i]? = data[i]?) →
    lower geometry other sample = some lowered

/-- What raising a column matrix does: the data gradient keeps its size and every element
outside the sample. -/
structure Raises [Add α] (geometry : Geometry) (columns : Array α) (sample : Nat)
    (gradient raised : Array α) :
    Prop where
  answer : raise geometry columns sample gradient = some raised
  size : raised.size = gradient.size
  elsewhere : ∀ i, (geometry.data.position i).sample ≠ sample → raised[i]? = gradient[i]?

end

namespace Geometry.Admitted

theorem sample_of_columnMoves (admitted : geometry.Admitted) {sample : Nat} {move : Nat × Nat}
    (member : move ∈ geometry.columnMoves sample) :
    (geometry.data.position move.1).sample = sample := by
  rw [admitted.columnMoves_sample] at member
  obtain ⟨within, inSingle, rfl⟩ := List.mem_map.mp member
  have inBlock := (admitted.single.columnMoves_inside Nat.one_pos within inSingle).1
  exact place_div (admitted.data.count_single ▸ inBlock)

variable (admitted : geometry.Admitted) {sample : Nat}
  (inside : sample < geometry.data.dims.samples)

include admitted inside

section

variable [Zero α]

-- Each cell is written with the one value that belongs to it, so the order does not matter.
theorem assignAlong_columnWrites {data workspace : Array α} (size : data.size = geometry.data.count)
    (room : geometry.columnRows * geometry.columnCols ≤ workspace.size)
    {writes : List (Nat × Option Nat)} (order : writes.Perm (geometry.columnWrites sample)) :
    Buffer.assignAlong workspace data writes =
      some (Buffer.overwrite workspace 0 (columnMatrix geometry data sample).toStorage) := by
  have visited : ∀ write ∈ writes, ∃ cell < geometry.columnRows * geometry.columnCols,
      write = (cell, geometry.columnSource sample (cell / geometry.columnCols)
        (cell % geometry.columnCols)) := by
    intro write member
    rw [order.mem_iff, geometry.columnWrites_eq] at member
    obtain ⟨cell, inRange, rfl⟩ := List.mem_map.mp member
    exact ⟨cell, List.mem_range.mp inRange, rfl⟩
  have cells : ∀ i, i ∈ writes.map Prod.fst ↔ i < geometry.columnRows * geometry.columnCols := by
    intro i
    rw [(order.map _).mem_iff, geometry.columnWrites_eq, List.map_map]
    simp [Function.comp_def]
  let entry (cell : Nat) : α :=
    columnEntry geometry data sample (cell / geometry.columnCols) (cell % geometry.columnCols)
  have carried : ∀ write ∈ writes, Buffer.valueAt data write.2 = some (entry write.1) := by
    intro write member
    obtain ⟨cell, within, rfl⟩ := visited write member
    exact admitted.valueAt_columnSource size inside (Geometry.row_lt within) _
  have inWorkspace : ∀ write ∈ writes, write.1 < workspace.size := by
    intro write member
    obtain ⟨cell, within, rfl⟩ := visited write member
    exact Nat.lt_of_lt_of_le within room
  rw [Buffer.assignAlong_eq_some entry inWorkspace carried, toStorage_columnMatrix,
    Buffer.overwrite_cells]
  simp [cells, entry]

theorem lowers {data : Array α} (size : data.size = geometry.data.count) :
    Lowers geometry data sample (columnMatrix geometry data sample).toStorage where
  answer := lower_eq_some admitted size inside
  size := Entries.size_toStorage _
  fills workspace room writes order := by
    unfold fillWorkspace
    rw [if_pos room]
    exact admitted.assignAlong_columnWrites inside size room order
  overwrites before whole writes order := by
    rw [admitted.assignAlong_columnWrites inside size (Nat.le_of_eq whole.symm) order,
      Buffer.overwrite_whole ((Entries.size_toStorage _).trans whole.symm)]
  reads other same := by
    rw [← lower_eq_some admitted size inside]
    refine Buffer.tabulate_congr fun cell within => ?_
    cases found : geometry.columnSource sample (cell / geometry.columnCols)
      (cell % geometry.columnCols) with
    | none => rfl
    | some source =>
      obtain ⟨element, inData, own, rfl⟩ :=
        admitted.columnSource_within inside (Geometry.row_lt within) found
      refine same _ ?_
      rw [admitted.data.position_offset inData, own]

theorem raises [Add α] {columns gradient : Array α} (whole : gradient.size = geometry.data.count)
    (room : geometry.columnRows * geometry.columnCols ≤ columns.size) :
    Raises geometry columns sample gradient
      (Buffer.cells gradient.size (Buffer.collected gradient columns (geometry.columnMoves sample)))
        where
  answer := raise_eq_some admitted whole inside room
  size := Buffer.size_cells ..
  elsewhere i outside := by
    by_cases within : i < gradient.size
    · rw [Buffer.getElem?_cells _ within, Buffer.getElem?_eq_cell within]
      refine congrArg some (Buffer.collected_elsewhere fun move member reached => outside ?_)
      subst reached
      exact admitted.sample_of_columnMoves member
    · simp [within]

end

section

variable [CommRing α]

-- A cell of the matrix is the data element that it was read from, or nothing at all.
theorem columnEntry_eq_sum (data : Array α) {row : Nat} (location : Nat)
    (inRows : row < geometry.columnRows) :
    columnEntry geometry data sample row location =
      ∑ element ∈ geometry.data.dims.positions,
        if geometry.Reads (geometry.outputAt sample 0 location) (geometry.tapAt 0 row) element then
          Buffer.read geometry.data data element else 0 := by
  obtain ⟨filters, -, -, -⟩ := Shape.pos_of_count admitted.filtersHold
  obtain ⟨-, channel, -, -⟩ := admitted.tapAt_within filters inRows
  have summed :=
    geometry.sum_reads_data (show (geometry.outputAt sample 0 location).sample < _ from inside)
    (admitted.channels ▸ channel) (Buffer.read geometry.data data)
  exact (summed.trans (if_pos rfl)).symm

/-- Summed over the matrix, each data element meets the cells that were read from it. -/
theorem pairing_lowered (data columns : Array α) :
    Buffer.pairing (geometry.columnRows * geometry.columnCols) columns
      (columnMatrix geometry data sample).toStorage =
      ∑ element ∈ geometry.data.dims.positions,
        Buffer.read geometry.data data element * geometry.columnShare columns sample element := by
  have cell : ∀ row ∈ Finset.range geometry.columnRows,
      ∀ location ∈ Finset.range geometry.columnCols,
        Buffer.cell (columnMatrix geometry data sample).toStorage
          (row * geometry.columnCols + location) =
          columnEntry geometry data sample row location := by
    intro row inRows location inCols
    rw [Finset.mem_range] at inRows inCols
    rw [toStorage_columnMatrix, Buffer.cell_cells _ (place_lt inRows inCols), place_div inCols,
      place_mod inCols]
  calc _ = ∑ row ∈ Finset.range geometry.columnRows, ∑ location ∈ Finset.range geometry.columnCols,
        Buffer.cell columns (row * geometry.columnCols + location) *
          columnEntry geometry data sample row location := by
        unfold Buffer.pairing
        rw [sum_range_mul]
        refine Finset.sum_congr rfl fun row inRows => Finset.sum_congr rfl fun location inCols => ?_
        rw [cell row inRows location inCols]
    _ = ∑ row ∈ Finset.range geometry.columnRows, ∑ location ∈ Finset.range geometry.columnCols,
        ∑ element ∈ geometry.data.dims.positions, Buffer.read geometry.data data element *
          if geometry.Reads (geometry.outputAt sample 0 location)
            (geometry.tapAt 0 row) element then
            Buffer.cell columns (row * geometry.columnCols + location) else 0 := by
        refine Finset.sum_congr rfl fun row inRows => Finset.sum_congr rfl fun location _ => ?_
        rw [admitted.columnEntry_eq_sum inside data location (Finset.mem_range.mp inRows),
          Finset.mul_sum]
        refine Finset.sum_congr rfl fun element _ => ?_
        rw [mul_ite_zero, mul_ite_zero, mul_comm]
    _ = _ := by
        unfold columnShare
        simp only [Finset.mul_sum]
        exact (Finset.sum_congr rfl fun row _ => Finset.sum_comm).trans Finset.sum_comm

theorem increment_raised {columns gradient raised : Array α}
    (whole : gradient.size = geometry.data.count)
    (room : geometry.columnRows * geometry.columnCols ≤ columns.size)
    (answer : raise geometry columns sample gradient = some raised) {element : Index}
    (within : element.Within geometry.data.dims) :
    Buffer.increment gradient raised (geometry.data.offset element) =
      geometry.columnShare columns sample element := by
  rw [raise_eq_some admitted whole inside room] at answer
  cases answer
  unfold Buffer.increment
  rw [Buffer.cell_cells _ (whole ▸ admitted.data.offset_lt within),
    admitted.collected_columnMoves columns gradient inside within]
  exact add_sub_cancel_left _ _

-- Outside the sample nothing was added.
theorem sum_increment_sample (data : Array α) {columns gradient raised : Array α}
    (raises : Raises geometry columns sample gradient raised) :
    ∑ element ∈ geometry.data.dims.positions,
        Buffer.read geometry.data data element * Buffer.increment gradient raised
          (geometry.data.offset element) =
      ∑ place ∈ Finset.range geometry.data.strides.sample,
        Buffer.cell data (sample * geometry.data.strides.sample + place) *
          Buffer.increment gradient raised (sample * geometry.data.strides.sample + place) := by
  have unchanged : ∀ i, (geometry.data.position i).sample ≠ sample →
      Buffer.increment gradient raised i = 0 := by
    intro i outside
    unfold Buffer.increment Buffer.cell
    rw [Array.getD_eq_getD_getElem?, Array.getD_eq_getD_getElem?, raises.elsewhere i outside,
      sub_self]
  calc _ = ∑ i ∈ Finset.range geometry.data.count,
      Buffer.cell data i * Buffer.increment gradient raised i :=
        (admitted.data.sum_count fun i =>
          Buffer.cell data i * Buffer.increment gradient raised i).symm
    _ = ∑ other ∈ Finset.range geometry.data.dims.samples,
      ∑ place ∈ Finset.range geometry.data.strides.sample,
          Buffer.cell data (other * geometry.data.strides.sample + place) *
            Buffer.increment gradient raised (other * geometry.data.strides.sample + place) := by
        rw [admitted.data.count_eq_samples, sum_range_mul]
    _ = _ := by
        refine Finset.sum_eq_single_of_mem sample (Finset.mem_range.mpr inside)
          fun other _ different => ?_
        refine Finset.sum_eq_zero fun place inBlock => ?_
        have own : (geometry.data.position (other * geometry.data.strides.sample + place)).sample =
            other :=
          place_div (Finset.mem_range.mp inBlock)
        rw [unchanged _ (own.trans_ne different), mul_zero]

end

end Geometry.Admitted

/-- On every accepted geometry, lowering and raising keep to their sample and lowering fills all of
its matrix, whatever the scalars are. In exact arithmetic they are adjoint: a matrix paired with
what is lowered is the sample paired with what the matrix adds to it. -/
theorem raising_adjoint_to_lowering {dataShape filterShape : Shape} {stride : Nat × Nat}
    (accepted : Geometry.ofLayouts (.ofShape dataShape) (.ofShape filterShape) stride =
      .ok geometry)
    {sample : Nat} (inside : sample < geometry.data.dims.samples) :
    (∀ {β : Type} [Zero β] [Add β] {data columns gradient : Array β},
      geometry.Matches data columns gradient →
      ∃ lowered raised, Lowers geometry data sample lowered ∧
        Raises geometry columns sample gradient raised) ∧
    ∀ {β : Type} [CommRing β] {data columns gradient lowered raised : Array β},
      geometry.Matches data columns gradient → lower geometry data sample = some lowered →
      raise geometry columns sample gradient = some raised →
        Buffer.pairing (geometry.columnRows * geometry.columnCols) columns lowered =
          ∑ place ∈ Finset.range geometry.data.strides.sample,
            Buffer.cell data (sample * geometry.data.strides.sample + place) *
              Buffer.increment gradient raised (sample * geometry.data.strides.sample + place) := by
  have admitted := Geometry.admitted_of_ofLayouts accepted
  constructor
  · intro β _ _ data columns gradient operands
    have room := Nat.le_of_eq operands.columns.symm
    exact ⟨_, _, admitted.lowers inside operands.data,
      admitted.raises inside operands.gradient room⟩
  · intro β _ data columns gradient lowered raised operands lowers raises
    have room := Nat.le_of_eq operands.columns.symm
    have frame := admitted.raises inside operands.gradient room
    obtain rfl := Option.some.inj (frame.answer.symm.trans raises)
    obtain rfl := Option.some.inj ((lower_eq_some admitted operands.data inside).symm.trans lowers)
    rw [admitted.pairing_lowered inside, ← admitted.sum_increment_sample inside data frame]
    refine Finset.sum_congr rfl fun element member => ?_
    rw [admitted.increment_raised inside operands.gradient room raises
      (Shape.mem_positions.mp member)]

-- Columns of three taps two apart share a data element between neighbouring outputs.
theorem raising_adjoint_to_lowering_overlapping :
    let geometry : Geometry := ⟨.ofShape ⟨2, 2, 3, 4⟩, .ofShape ⟨1, 2, 2, 3⟩, (1, 2)⟩
    let data : Array Int := Buffer.cells 48 fun i => (i : Int) * i - 7
    let columns : Array Int := Buffer.cells 72 fun i => 3 * (i : Int) - 4
    let gradient : Array Int := Buffer.cells 48 fun i => 5 - (i : Int)
    ∃ lowered raised, Lowers geometry data 1 lowered ∧ Raises geometry columns 1 gradient raised ∧
      Buffer.pairing 72 columns lowered = ∑ place ∈ Finset.range 24,
        Buffer.cell data (24 + place) * Buffer.increment gradient raised (24 + place) := by
  intro geometry data columns gradient
  have accepted : Geometry.ofLayouts (.ofShape ⟨2, 2, 3, 4⟩) (.ofShape ⟨1, 2, 2, 3⟩) (1, 2) =
      .ok geometry := rfl
  have operands : geometry.Matches data columns gradient :=
    ⟨Buffer.size_cells .., (Buffer.size_cells ..).trans (by decide), Buffer.size_cells ..⟩
  have inside : 1 < geometry.data.dims.samples := by decide
  have cells : geometry.columnRows * geometry.columnCols = 72 := by decide
  have block : 1 * geometry.data.strides.sample = 24 := by decide
  obtain ⟨answers, adjoint⟩ := raising_adjoint_to_lowering accepted inside
  obtain ⟨lowered, raised, lowers, raises⟩ := answers operands
  have paired := adjoint operands lowers.answer raises.answer
  rw [cells, block] at paired
  exact ⟨lowered, raised, lowers, raises, paired⟩

end TensorEngine.Conv

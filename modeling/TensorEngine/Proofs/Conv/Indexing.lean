import Mathlib.Data.Set.Function
import TensorEngine.Proofs.Conv.Product
import TensorEngine.Proofs.Pool.Kernel
import TensorEngine.Proofs.View

/-! One numbering of the elements of a tensor. Offsets, strides, planes and library views
number them alike, and the taps of a filter are numbered alike in its row of the filter
matrix, in the rows that lowering fills and in those that raising adds back. -/

set_option autoImplicit false

namespace TensorEngine

-- The same run as that of a matrix, when there is a list to go through at every cell.
theorem flatMap_range_mul {γ : Type} (rows cols : Nat) (visit : Nat → List γ) :
    (List.range (rows * cols)).flatMap visit =
      (List.range rows).flatMap fun row => (List.range cols).flatMap fun col =>
        visit (row * cols + col) := by
  have run := flatMap_range_map rows cols fun flat => flat
  rw [List.map_id'] at run
  rw [← run, List.flatMap_assoc]
  simp only [List.flatMap_map]

namespace Layout

/-- Position of a cell in one of the planes, which are counted through the channels of the
samples. -/
def cellPosition (layout : Layout) (chunk cell : Nat) : Index :=
  ⟨chunk / layout.dims.channels, chunk % layout.dims.channels, cell / layout.dims.cols,
    cell % layout.dims.cols⟩

/-- Positions and flat indices stand for each other, one for one. A flat index stands for the
same position when it is read off the strides and off the plane that it falls into. -/
structure OneForOne (layout : Layout) : Prop where
  offset : Set.BijOn layout.offset {index | index.Within layout.dims} {flat | flat < layout.count}
  position : Set.InvOn layout.position layout.offset {index | index.Within layout.dims}
    {flat | flat < layout.count}
  planePosition : Set.EqOn layout.planePosition layout.position {flat | flat < layout.count}
  cell : ∀ chunk < layout.dims.samples * layout.dims.channels, ∀ cell < layout.plane,
    layout.planePosition (chunk * layout.plane + cell) = layout.cellPosition chunk cell ∧
      (layout.cellPosition chunk cell).Within layout.dims ∧
      layout.offset (layout.cellPosition chunk cell) = chunk * layout.plane + cell

/-- What storage shows of its elements, to a library that views it and cut into planes: at
every position the one that lies at the offset. -/
structure Shows {α : Type} (layout : Layout) (storage : Array α) : Prop where
  viewable : Buffer.fitsLayout storage layout = .ok () ∧ Nonempty (View storage layout.dims.toList)
  viewed : ∀ view : View storage layout.dims.toList, ∀ index : Index, index.Within layout.dims →
    view.element index.toList = storage[layout.offset index]?
  chunked : ∃ planes, Pool.planes storage layout.plane
    (layout.dims.samples * layout.dims.channels) = some planes ∧
    planes.size = layout.dims.samples * layout.dims.channels ∧
      ∀ chunk < layout.dims.samples * layout.dims.channels, ∀ cell < layout.plane,
        (planes[chunk]?.bind (·[cell]?)) = storage[layout.offset (layout.cellPosition chunk cell)]?

variable {layout : Layout}

theorem planePosition_cell (layout : Layout) (chunk : Nat) {cell : Nat}
    (inPlane : cell < layout.plane) :
    layout.planePosition (chunk * layout.plane + cell) = layout.cellPosition chunk cell := by
  unfold planePosition cellPosition
  rw [place_div inPlane, place_mod inPlane]

theorem RowMajor.offset_cellPosition (rowMajor : layout.RowMajor) (chunk : Nat) {cell : Nat}
    (inPlane : cell < layout.plane) :
    layout.offset (layout.cellPosition chunk cell) = chunk * layout.plane + cell := by
  rw [← layout.planePosition_cell chunk inPlane, rowMajor.planePosition_eq,
    rowMajor.offset_position]

theorem RowMajor.cellPosition_within (rowMajor : layout.RowMajor) {chunk cell : Nat}
    (inChunks : chunk < layout.dims.samples * layout.dims.channels)
    (inPlane : cell < layout.plane) :
    (layout.cellPosition chunk cell).Within layout.dims := by
  have inside : chunk * layout.plane + cell < layout.count :=
    layout.count_eq_planes ▸ place_lt inChunks inPlane
  rw [← layout.planePosition_cell chunk inPlane, rowMajor.planePosition_eq]
  exact rowMajor.position_within inside

theorem RowMajor.oneForOne (rowMajor : layout.RowMajor) : layout.OneForOne := by
  have inverse : Set.InvOn layout.position layout.offset {index | index.Within layout.dims}
      {flat | flat < layout.count} :=
    ⟨fun _ within => rowMajor.position_offset within, fun flat _ => rowMajor.offset_position flat⟩
  exact {
    offset := inverse.bijOn (fun _ within => rowMajor.offset_lt within) fun _ inside =>
      rowMajor.position_within inside
    position := inverse
    planePosition := fun flat _ => rowMajor.planePosition_eq flat
    cell := fun chunk inChunks _ inPlane => ⟨layout.planePosition_cell chunk inPlane,
      rowMajor.cellPosition_within inChunks inPlane, rowMajor.offset_cellPosition chunk inPlane⟩ }

theorem RowMajor.shows {α : Type} [Zero α] (rowMajor : layout.RowMajor) {storage : Array α}
    (size : storage.size = layout.count) : layout.Shows storage where
  viewable := by
    have fits := (Buffer.fitsLayout_eq_ok_iff storage layout).mpr size
    exact ⟨fits, fitsLayout_iff_view.mp fits⟩
  viewed view _ within := rowMajor.element_eq view within
  chunked := by
    rw [layout.count_eq_planes] at size
    refine ⟨_, Pool.planes_eq_some size, Buffer.size_cells ..,
      fun chunk inChunks cell inPlane => ?_⟩
    have inside : chunk * layout.plane + cell < storage.size := size ▸ place_lt inChunks inPlane
    rw [rowMajor.offset_cellPosition chunk inPlane, Buffer.getElem?_cells _ inChunks,
      Option.bind_some]
    exact (Buffer.getElem?_cells _ inPlane).trans (Buffer.getElem?_eq_cell inside).symm

end Layout

namespace Conv

variable {geometry : Geometry}

-- A sweep runs through the locations in order and keeps those with both counterparts.
theorem sweep_eq_filterMap {γ : Type} (rows cols : Nat) (rowOf colOf : Nat → Option Nat)
    (visit : Nat → Nat → Nat → Nat → γ) :
    sweep rows cols rowOf colOf visit =
      (List.range (rows * cols)).filterMap fun location => do
        let atRow ← rowOf (location / cols)
        let atCol ← colOf (location % cols)
        return visit (location / cols) atRow (location % cols) atCol := by
  rw [List.filterMap_eq_flatMap_toList, flatMap_range_mul]
  unfold sweep
  refine List.flatMap_congr fun row _ => ?_
  rw [← List.filterMap_eq_flatMap_toList]
  cases rowFound : rowOf row with
  | none =>
    symm
    refine List.filterMap_eq_nil_iff.mpr fun col inCols => ?_
    rw [place_div (List.mem_range.mp inCols), rowFound]
    rfl
  | some atRow =>
    refine List.filterMap_congr fun col inCols => ?_
    rw [place_div (List.mem_range.mp inCols), place_mod (List.mem_range.mp inCols), rowFound]
    cases colOf col <;> rfl

namespace Geometry

/-- The row of the column matrix, and the column of the filter matrix, that belongs to a tap. -/
def tapRow (geometry : Geometry) (tap : Index) : Nat :=
  (tap.channel * geometry.filters.dims.rows + tap.row) * geometry.filters.dims.cols + tap.col

/-- Data offset that a tap reads for an output location; none in the padding. -/
def tapSource (geometry : Geometry) (sample : Nat) (tap : Index) (location : Nat) : Option Nat := do
  let dataRow ← geometry.rowAxis.input? (location / geometry.output.dims.cols) tap.row
  let dataCol ← geometry.colAxis.input? (location % geometry.output.dims.cols) tap.col
  return geometry.data.offset ⟨sample, tap.channel, dataRow, dataCol⟩

/-- The taps of a filter are numbered alike by the filter matrix, by lowering and by raising. -/
structure TapsAligned (geometry : Geometry) : Prop where
  tap_of_row : ∀ filter < geometry.filters.dims.samples, ∀ row < geometry.columnRows,
    (geometry.tapAt filter row).Within geometry.filters.dims ∧
      geometry.tapRow (geometry.tapAt filter row) = row
  row_of_tap : ∀ tap : Index, tap.Within geometry.filters.dims →
    geometry.tapRow tap < geometry.columnRows ∧
      geometry.tapAt tap.sample (geometry.tapRow tap) = tap
  -- Raising counts the taps of each channel on their own.
  tap_of_channel : ∀ filter channel, ∀ tap < geometry.planeTaps,
    geometry.tapAt filter (channel * geometry.planeTaps + tap) =
      ⟨filter, channel, tap / geometry.filters.dims.cols, tap % geometry.filters.dims.cols⟩
  entry : ∀ {α : Type} [Zero α] {filters : Array α}, filters.size = geometry.filters.count →
    ∃ entries, Entries.ofStorage? filters geometry.filters.dims.samples geometry.columnRows =
      some entries ∧
      ∀ (filter : Fin geometry.filters.dims.samples) (row : Fin geometry.columnRows),
        filters[geometry.filters.offset (geometry.tapAt filter row)]? = some (entries filter row) ∧
          ∀ view : View filters [geometry.filters.dims.samples, geometry.columnRows],
            view.element [filter.val, row.val] = some (entries filter row)
  lowered : ∀ (sample : Nat) (tap : Index) (location : Nat), tap.Within geometry.filters.dims →
    geometry.columnSource sample (geometry.tapRow tap) location =
      geometry.tapSource sample tap location
  raised : ∀ sample, geometry.columnMoves sample =
    (List.range (geometry.columnRows * geometry.columnCols)).filterMap fun cell =>
      (geometry.columnSource sample (cell / geometry.columnCols)
        (cell % geometry.columnCols)).map (·, cell)

-- What lowering reads for a row is what its tap reads, whichever filter the tap is taken from.
theorem columnSource_eq (geometry : Geometry) (sample filter row location : Nat) :
    geometry.columnSource sample row location = geometry.tapSource sample
      (geometry.tapAt filter row) location := rfl

theorem tapAt_tapRow (geometry : Geometry) {tap : Index}
    (within : tap.Within geometry.filters.dims) :
    geometry.tapAt tap.sample (geometry.tapRow tap) = tap := by
  obtain ⟨-, -, inRows, inCols⟩ := within
  exact geometry.tapAt_place inRows inCols

theorem tapRow_lt (geometry : Geometry) {tap : Index} (within : tap.Within geometry.filters.dims) :
    geometry.tapRow tap < geometry.columnRows := by
  obtain ⟨-, inChannels, inRows, inCols⟩ := within
  exact place_lt (place_lt inChannels inRows) inCols

theorem offset_eq_tapRow (rowMajor : geometry.filters.RowMajor) (tap : Index) :
    geometry.filters.offset tap = tap.sample * geometry.columnRows + geometry.tapRow tap := by
  rw [rowMajor.offset_eq]
  unfold tapRow columnRows
  ring

theorem tapRow_tapAt (rowMajor : geometry.filters.RowMajor) (filter row : Nat) :
    geometry.tapRow (geometry.tapAt filter row) = row := by
  have offset := offset_tapAt rowMajor filter row
  rw [offset_eq_tapRow rowMajor] at offset
  exact Nat.add_left_cancel offset

variable (admitted : geometry.Admitted)

include admitted

/-- Raising goes through the cells of the column matrix in the order of its storage. It adds
each onto the data element that lowering reads it from. -/
theorem Admitted.columnMoves_eq (sample : Nat) :
    geometry.columnMoves sample =
      (List.range (geometry.columnRows * geometry.columnCols)).filterMap fun cell =>
        (geometry.columnSource sample (cell / geometry.columnCols)
          (cell % geometry.columnCols)).map (·, cell) := by
  have locations : geometry.columnCols = geometry.output.dims.rows * geometry.output.dims.cols :=
    rfl
  rw [List.filterMap_eq_flatMap_toList, flatMap_range_mul, admitted.columnRows_eq,
    flatMap_range_mul]
  unfold columnMoves
  refine List.flatMap_congr fun channel _ => List.flatMap_congr fun tap inTaps => ?_
  rw [sweep_eq_filterMap, ← locations, List.filterMap_eq_flatMap_toList]
  refine List.flatMap_congr fun location inCols => ?_
  rw [place_div (List.mem_range.mp inCols), place_mod (List.mem_range.mp inCols),
    geometry.columnSource_eq sample 0, geometry.tapAt_plane (List.mem_range.mp inTaps),
    Nat.div_add_mod']
  unfold tapSource
  dsimp only
  cases geometry.rowAxis.input? (location / geometry.output.dims.cols)
    (tap / geometry.filters.dims.cols) with
  | none => rfl
  | some dataRow =>
    cases geometry.colAxis.input? (location % geometry.output.dims.cols)
      (tap % geometry.filters.dims.cols) <;> rfl

theorem Admitted.tapsAligned : geometry.TapsAligned where
  tap_of_row filter inFilters row inRows :=
    ⟨admitted.tapAt_within inFilters inRows, tapRow_tapAt admitted.filters filter row⟩
  row_of_tap tap within := ⟨geometry.tapRow_lt within, geometry.tapAt_tapRow within⟩
  tap_of_channel filter channel tap inPlane := geometry.tapAt_plane inPlane
  entry size := by
    have count := admitted.filters_count
    rw [admitted.output_channels] at count
    have fits := Nat.le_of_eq (count.symm.trans size.symm)
    refine ⟨_, Entries.ofStorage?_eq_some fits, fun filter row => ?_⟩
    have element := Entries.getElem?_eq_view fits filter row
    exact ⟨by rw [offset_tapAt admitted.filters, element],
      fun view => (view.element_matrix filter row).trans element⟩
  lowered sample tap location within := by
    rw [geometry.columnSource_eq sample tap.sample, geometry.tapAt_tapRow within]
  raised := admitted.columnMoves_eq

end Geometry

/-- Under every layout with elements, offsets number the positions one for one; strides, planes
and library views all go by the same numbers. Where it is the layout of filters, so do the
rows of the column matrix in either direction, by the columns of the filter matrix. -/
theorem flat_indices_agree {shape : Shape} (samples : 0 < shape.samples)
    (channels : 0 < shape.channels) (rows : 0 < shape.rows) (cols : 0 < shape.cols) :
    (Layout.ofShape shape).dims = shape ∧ (Layout.ofShape shape).OneForOne ∧
      (∀ {α : Type} [Zero α] {storage : Array α}, storage.size = shape.count →
        (Layout.ofShape shape).Shows storage) ∧
      ∀ {data : Shape} {stride : Nat × Nat} {geometry : Geometry},
        Geometry.ofLayouts (.ofShape data) (.ofShape shape) stride = .ok geometry →
          geometry.filters = .ofShape shape ∧ geometry.TapsAligned := by
  have rowMajor := Layout.rowMajor_ofShape shape
  refine ⟨Shape.collapse_of_pos samples channels rows cols, rowMajor.oneForOne, fun size => ?_,
    fun accepted => ?_⟩
  · exact rowMajor.shows (size.trans (Layout.count_ofShape shape).symm)
  · have admitted := Geometry.admitted_of_ofLayouts accepted
    obtain ⟨rfl, -⟩ := Geometry.ofLayouts_eq_ok_iff.mp accepted
    exact ⟨rfl, admitted.tapsAligned⟩

-- Filters of two rows and four columns over three channels; no two of these are the same number.
theorem flat_indices_agree_oblong :
    let shape : Shape := ⟨5, 3, 2, 4⟩
    let layout : Layout := .ofShape shape
    let geometry : Geometry := ⟨.ofShape ⟨1, 3, 6, 7⟩, layout, (1, 2)⟩
    let storage : Array Nat := Array.range 120
    Geometry.ofLayouts (.ofShape ⟨1, 3, 6, 7⟩) layout (1, 2) = .ok geometry ∧
      storage.size = shape.count ∧
      layout.OneForOne ∧ layout.Shows storage ∧ geometry.TapsAligned ∧
      ∃ (view : View storage layout.dims.toList) (matrix : View storage [5, 24]),
        view.element [3, 2, 1, 2] = storage[layout.offset ⟨3, 2, 1, 2⟩]? ∧
          matrix.element [3, 22] = storage[layout.offset (geometry.tapAt 3 22)]? := by
  intro shape layout geometry storage
  let view : View storage layout.dims.toList :=
    ⟨fun coords => some (24 * coords[0]! + 8 * coords[1]! + 4 * coords[2]! + coords[3]!), by decide⟩
  let matrix : View storage [5, 24] :=
    ⟨fun coords => some (24 * coords[0]! + coords[1]!), by decide⟩
  have accepted : Geometry.ofLayouts (.ofShape ⟨1, 3, 6, 7⟩) layout (1, 2) = .ok geometry := rfl
  have size : storage.size = shape.count := by decide
  obtain ⟨-, oneForOne, shows, aligned⟩ := flat_indices_agree (show 0 < shape.samples by decide)
    (show 0 < shape.channels by decide) (show 0 < shape.rows by decide) (show 0 <
      shape.cols by decide)
  have seen := shows size
  have taps := (aligned accepted).2
  obtain ⟨entries, -, each⟩ := taps.entry (show storage.size = geometry.filters.count by decide)
  obtain ⟨element, viewed⟩ := each ⟨3, by decide⟩ ⟨22, by decide⟩
  exact ⟨accepted, size, oneForOne, seen, taps, view, matrix,
    seen.viewed view ⟨3, 2, 1, 2⟩ (by decide), (viewed matrix).trans element.symm⟩

end Conv

end TensorEngine

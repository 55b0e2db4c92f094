import TensorEngine.Proofs.Pool.Kernel
import TensorEngine.Proofs.Pool.Scan

/-! Where a pooled value comes from. Forward scans a window for its greatest element, and
backward for the first element that equals it. The two scans end at one offset, also
where zeros of both signs tie, where nothing exceeds the lowest number, and where there
are no numbers. -/

set_option autoImplicit false

namespace TensorEngine.Pool

variable {α : Type}

namespace Geometry

variable {geometry : Geometry} {window : Window} {src : Layout} {row col : Nat}

theorem ofLayout_eq_ok (accepted : ofLayout window src = .ok geometry) :
    geometry.window = window ∧ geometry.src = src ∧ 0 < window.stride.1 ∧ 0 < window.stride.2 ∧
      geometry.dest = .ofShape ⟨src.dims.samples, src.dims.channels,
        src.dims.rows / window.stride.1, src.dims.cols / window.stride.2⟩ := by
  unfold ofLayout at accepted
  dsimp only at accepted
  split at accepted
  · cases accepted
  · split at accepted
    · cases accepted
    · cases accepted
      exact ⟨rfl, rfl, by omega, by omega, rfl⟩

/-- The corner of the window of an output is a position under it. -/
theorem covers_corner (accepted : ofLayout window src = .ok geometry) (rowSize : 0 < window.size.1)
    (colSize : 0 < window.size.2) (inRows : row < geometry.dest.dims.rows)
    (inCols : col < geometry.dest.dims.cols) :
    geometry.window.Covers geometry.src.dims row col (row * geometry.window.stride.1)
      (col * geometry.window.stride.2) := by
  obtain ⟨rfl, rfl, rowStride, colStride, dest⟩ := ofLayout_eq_ok accepted
  rw [dest] at inRows inCols
  obtain ⟨rows, cols⟩ := Shape.collapse_le ⟨geometry.src.dims.samples, geometry.src.dims.channels,
    geometry.src.dims.rows / geometry.window.stride.1,
    geometry.src.dims.cols / geometry.window.stride.2⟩
  have onRow := start_lt rowStride (Nat.lt_of_lt_of_le inRows rows)
  have onCol := start_lt colStride (Nat.lt_of_lt_of_le inCols cols)
  exact ⟨⟨Nat.le_refl _, Nat.lt_min.mpr ⟨Nat.lt_add_of_pos_right rowSize, onRow⟩⟩,
    Nat.le_refl _, Nat.lt_min.mpr ⟨Nat.lt_add_of_pos_right colSize, onCol⟩⟩

-- Where a scan can end: at the corner, or where it has been.
theorem covers_of_mem_scan
    (corner : geometry.window.Covers geometry.src.dims row col (row * geometry.window.stride.1)
      (col * geometry.window.stride.2)) {offset : Nat}
    (member : offset ∈ geometry.corner row col :: geometry.offsets row col) :
    ∃ y x, geometry.window.Covers geometry.src.dims row col y x ∧
      y * geometry.src.dims.cols + x = offset := by
  rcases List.mem_cons.mp member with rfl | scanned
  · exact ⟨_, _, corner, rfl⟩
  · exact covers_of_mem_offsets scanned

theorem place_lt_of_covers {y x : Nat}
    (covered : geometry.window.Covers geometry.src.dims row col y x) :
    y * geometry.src.dims.cols + x < geometry.src.plane :=
  place_lt (Nat.lt_min.mp covered.1.2).2 (Nat.lt_min.mp covered.2.2).2

/-- Forward takes the value of an output from one offset of its window, and backward
finds that offset again. -/
structure PicksOne [Lowest α] [LT α] [DecidableLT α] [BEq α] (geometry : Geometry) (plane : Array α)
    (row col : Nat) (value : α) (index : Nat) : Prop where
  forward : ∃ best, geometry.argmax plane row col = some (index, best)
  stored : plane[index]? = some value
  backward : geometry.gradientTarget plane row col value = some index
  clipped : ∃ y x, index = y * geometry.src.dims.cols + x ∧
    (row * geometry.window.stride.1 ≤ y ∧
      y < row * geometry.window.stride.1 + geometry.window.size.1 ∧
      y < geometry.src.dims.rows) ∧
    (col * geometry.window.stride.2 ≤ x ∧
      x < col * geometry.window.stride.2 + geometry.window.size.2 ∧
      x < geometry.src.dims.cols)

section

variable [Zero α] {plane : Array α} (size : plane.size = geometry.src.plane)

include size

theorem firstMatch_eq_some [BEq α] (value : α) : geometry.firstMatch plane row col value =
    some ((geometry.offsets row col).find? fun offset => Buffer.cell plane offset == value) := by
  refine Buffer.findM?_eq_some fun offset member => ?_
  rw [Buffer.getElem?_eq_cell (size ▸ offset_lt member)]
  rfl

variable [Lowest α] [LT α] [DecidableLT α]

theorem argmax_eq_some : geometry.argmax plane row col =
    some ((geometry.offsets row col).foldl (raise (Buffer.cell plane))
      (geometry.corner row col, Lowest.lowest)) := by
  refine Buffer.foldlM_eq_some _ fun best offset member => ?_
  rw [Buffer.getElem?_eq_cell (size ▸ offset_lt member)]
  rfl

theorem picksOne [BEq α] [LawfulComparison α]
    (corner : geometry.window.Covers geometry.src.dims row col (row * geometry.window.stride.1)
      (col * geometry.window.stride.2)) :
    ∃ value index, geometry.PicksOne plane row col value index := by
  have begun : Scanned (Buffer.cell plane) (geometry.corner row col, Lowest.lowest) [] _ :=
    .unmoved nofun
  have scanned := begun.run (geometry.offsets row col)
  rw [List.nil_append] at scanned
  have scan : geometry.argmax plane row col = _ := argmax_eq_some size
  generalize (geometry.offsets row col).foldl (raise (Buffer.cell plane)) _ = best at scanned scan
  obtain ⟨y, x, covered, place⟩ := covers_of_mem_scan corner scanned.mem
  have inside : best.1 < plane.size := size ▸ place ▸ place_lt_of_covers covered
  refine ⟨_, best.1, ⟨best.2, scan⟩, Buffer.getElem?_eq_cell inside, ?_, ?_⟩
  · unfold gradientTarget
    rw [firstMatch_eq_some size]
    cases search : (geometry.offsets row col).find? fun offset =>
      Buffer.cell plane offset == Buffer.cell plane best.1 with
    | none => simp [scan]
    | some found => simp [scanned.eq_of_find? corner_of_head?_offsets search]
  · exact ⟨y, x, place.symm, ⟨covered.1.1, Nat.lt_min.mp covered.1.2⟩, covered.2.1,
      Nat.lt_min.mp covered.2.2⟩

end

/-- An output that is the element at some offset of the window is routed to that offset. -/
theorem PicksOne.route_eq_some [Lowest α] [LT α] [DecidableLT α] [BEq α] {plane dest : Array α}
    {sources : Array (Array α)} {flat length index : Nat} {value : α}
    (picks : geometry.PicksOne plane (flat % geometry.dest.plane / geometry.dest.dims.cols)
      (flat % geometry.dest.plane % geometry.dest.dims.cols) value index)
    (source : sources[flat / geometry.dest.plane]? = some plane) (held : dest[flat]? = some value)
    (size : plane.size = geometry.src.plane)
    (reaches : (flat / geometry.dest.plane + 1) * geometry.src.plane ≤ length) :
    route geometry length sources dest flat =
      some (flat / geometry.dest.plane * geometry.src.plane + index, flat) := by
  have inside : index < geometry.src.plane := size ▸ (Array.getElem?_eq_some_iff.mp picks.stored).1
  rw [Nat.succ_mul] at reaches
  unfold route
  dsimp only
  rw [source, held]
  dsimp only [Option.bind_eq_bind, Option.bind_some]
  rw [picks.backward, Option.bind_some, if_pos (by omega)]

/-- Forward and backward pick the same offset of the same window for every output: on any
plane of floats, and so on whole storage, where backward routes each output of forward
to the element that it is. -/
theorem targets_are_sources (accepted : ofLayout window src = .ok geometry)
    (rowSize : 0 < window.size.1) (colSize : 0 < window.size.2) :
    (∀ plane : Array Float32, plane.size = geometry.src.plane →
      ∀ row < geometry.dest.dims.rows, ∀ col < geometry.dest.dims.cols,
        ∃ value index, geometry.PicksOne plane row col value index) ∧
    ∀ (count : Nat) (dest source : Array Float32), dest.size = count * geometry.dest.plane →
      source.size = count * geometry.src.plane →
        ∃ stored, maxForward geometry dest source = some stored ∧ stored.size = dest.size ∧
          ∀ flat < dest.size, ∃ value index,
            geometry.PicksOne (planeAt source geometry.src.plane (flat / geometry.dest.plane))
              (flat % geometry.dest.plane / geometry.dest.dims.cols)
              (flat % geometry.dest.plane % geometry.dest.dims.cols) value index ∧
            stored[flat]? = some value ∧
            route geometry source.size (Buffer.cells count (planeAt source geometry.src.plane))
              stored flat =
              some (flat / geometry.dest.plane * geometry.src.plane + index, flat) := by
  have onPlane (plane : Array Float32) (size : plane.size = geometry.src.plane) {row col : Nat}
      (inRows : row < geometry.dest.dims.rows) (inCols : col < geometry.dest.dims.cols) :=
    picksOne size (covers_corner accepted rowSize colSize inRows inCols)
  constructor
  · intro plane size row inRows col inCols
    exact onPlane plane size inRows inCols
  · intro count dest source destSize sourceSize
    by_cases cells : geometry.dest.plane = 0
    · have empty : dest.size = 0 := by rw [destSize, cells, Nat.mul_zero]
      exact ⟨dest, if_pos cells, rfl, fun flat inside => absurd inside (by omega)⟩
    · have sizeAt (p : Nat) : (planeAt source geometry.src.plane p).size = geometry.src.plane :=
        Buffer.size_cells ..
      have scans : ∀ flat < dest.size, ∃ value index,
          geometry.PicksOne (planeAt source geometry.src.plane (flat / geometry.dest.plane))
            (flat % geometry.dest.plane / geometry.dest.dims.cols)
            (flat % geometry.dest.plane % geometry.dest.dims.cols) value index := fun flat inside =>
        have ⟨_, inRows, inCols⟩ := cell_within (destSize ▸ inside)
        onPlane _ (sizeAt _) inRows inCols
      choose! value index picks using scans
      have filled : maxForward geometry dest source = some (Buffer.cells dest.size value) := by
        refine maxForward_eq_some (Nat.pos_of_ne_zero cells) destSize sourceSize fun flat inside =>
          ?_
        obtain ⟨best, scanned⟩ := (picks flat inside).forward
        exact ⟨_, scanned, (picks flat inside).stored⟩
      refine ⟨_, filled, Buffer.size_cells ..,
        fun flat inside => ⟨value flat, index flat, picks flat inside, ?_, ?_⟩⟩
      · exact Buffer.getElem?_cells _ inside
      · obtain ⟨inPlanes, -, -⟩ := cell_within (destSize ▸ inside)
        refine (picks flat inside).route_eq_some (Buffer.getElem?_cells _ inPlanes)
          (Buffer.getElem?_cells _ inside) (sizeAt _) ?_
        rw [sourceSize]
        exact Nat.mul_le_mul_right _ inPlanes

theorem targets_are_sources_nan :
    let window : Window := ⟨(1, 2), (1, 2)⟩
    let src := Layout.ofShape ⟨1, 1, 1, 6⟩
    let geometry : Geometry := ⟨window, src, Layout.ofShape ⟨1, 1, 1, 3⟩⟩
    let nan := Float32.ofBits 0x7fc00000
    let plane : Array Float32 := #[nan, Float32.ofBits 0xff800000, -0, 0, nan, 2]
    ofLayout window src = .ok geometry ∧
      (∀ col < 3, ∃ value index, geometry.PicksOne plane 0 col value index) ∧
      ∃ stored, maxForward geometry #[0, 0, 0] plane = some stored ∧ stored.size = 3 := by
  intro window src geometry nan plane
  have accepted : ofLayout ⟨(1, 2), (1, 2)⟩ (Layout.ofShape ⟨1, 1, 1, 6⟩) =
      .ok ⟨⟨(1, 2), (1, 2)⟩, Layout.ofShape ⟨1, 1, 1, 6⟩, Layout.ofShape ⟨1, 1, 1, 3⟩⟩ := by rfl
  obtain ⟨onPlanes, onStorage⟩ := targets_are_sources accepted (by decide) (by decide)
  obtain ⟨stored, filled, size, -⟩ := onStorage 1 #[0, 0, 0] plane (by decide) (by decide)
  exact ⟨accepted, fun col inside => onPlanes plane (by decide) 0 (by decide) col inside, stored,
    filled, size⟩

end Geometry

end TensorEngine.Pool

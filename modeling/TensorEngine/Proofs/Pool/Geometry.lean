import TensorEngine.Pool.Operator
import TensorEngine.Proofs.Layout
import TensorEngine.Proofs.Storage

/-! Pooling windows on an accepted geometry. Every window lies inside its plane and so
do its corner, its greatest element and the target of its gradient. A window whose end no
word holds is scanned at no position at all. The strides of an operator's window are
positive, whatever setups it has seen. -/

set_option autoImplicit false

namespace TensorEngine.Pool

namespace Operator

/-- A window that is held has positive strides. -/
def Sound (operator : Operator) : Prop :=
  ∀ window, operator.window = some window → 0 < window.stride.1 ∧ 0 < window.stride.2

theorem sound_new : new.Sound := nofun

/-- All that a setup can do: refuse and keep the operator, or hold the window. -/
theorem setup_cases {α : Type} (operator : Operator) (window : Window) :
    let called : Outcome Operator (Event α) Unit := operator.setup window
    (called.answer = .error (.refused (.zeroPoolingParameter window.size window.stride)) ∧
      called.state = operator) ∨
      0 < window.stride.1 ∧ 0 < window.stride.2 ∧ called.answer = .ok () ∧
        called.state = ⟨some window⟩ := by
  intro called
  by_cases zero : window.size.1 = 0 ∨ window.size.2 = 0 ∨ window.stride.1 = 0 ∨ window.stride.2 = 0
  · have refuses : called = _ := if_pos zero
    exact .inl ⟨by rw [refuses]; rfl, by rw [refuses]; rfl⟩
  · have holds : called = _ := if_neg zero
    exact .inr ⟨by omega, by omega, by rw [holds], by rw [holds]⟩

theorem Sound.setup {α : Type} {operator : Operator} (sound : operator.Sound) (window : Window) :
    (operator.setup window : Outcome Operator (Event α) Unit).state.Sound := by
  obtain ⟨-, state⟩ | ⟨rows, cols, -, state⟩ := setup_cases (α := α) operator window
  · rw [state]
    exact sound
  · rw [state]
    rintro _ ⟨⟩
    exact ⟨rows, cols⟩

end Operator

namespace Window

/-- A position of the source plane under the window of an output. -/
def Covers (window : Window) (shape : Shape) (row col y x : Nat) : Prop :=
  (row * window.stride.1 ≤ y ∧ y < min (row * window.stride.1 + window.size.1) shape.rows) ∧
    col * window.stride.2 ≤ x ∧ x < min (col * window.stride.2 + window.size.2) shape.cols

/-- A word holds both ends of the window of an output. -/
def Counted (window : Window) (row col : Nat) : Prop :=
  Counting.words.Keeps (row * window.stride.1 + window.size.1) ∧
    Counting.words.Keeps (col * window.stride.2 + window.size.2)

/-- A window that is no longer than a word holds, on both axes. -/
def Fits (window : Window) : Prop := window.size.1 < wordSize ∧ window.size.2 < wordSize

end Window

namespace Geometry

variable {α : Type} {geometry : Geometry}

/-- A row-major source that is at least one positive stride long on both axes. -/
structure Admitted (geometry : Geometry) : Prop where
  src : geometry.src.RowMajor
  dest : geometry.dest = .ofShape ⟨geometry.src.dims.samples, geometry.src.dims.channels,
    geometry.src.dims.rows / geometry.window.stride.1,
      geometry.src.dims.cols / geometry.window.stride.2⟩
  rowStride : 0 < geometry.window.stride.1
  colStride : 0 < geometry.window.stride.2
  rows : geometry.window.stride.1 ≤ geometry.src.dims.rows
  cols : geometry.window.stride.2 ≤ geometry.src.dims.cols

/-- With positive strides a source is accepted or too small. -/
theorem ofLayout_cases {window : Window} {src : Layout} (rowMajor : src.RowMajor)
    (rowStride : 0 < window.stride.1) (colStride : 0 < window.stride.2) :
    (∃ geometry, ofLayout window src = .ok geometry ∧ geometry.src = src ∧ geometry.Admitted) ∨
      ofLayout window src =
        .error (.refused (.poolingStrideTooLarge window.stride src.dims.rows src.dims.cols)) := by
  unfold ofLayout
  dsimp only
  split
  · exact .inr rfl
  · rename_i long
    rw [if_neg (by omega)]
    exact .inl ⟨_, rfl, rfl, rowMajor, rfl, rowStride, colStride, by dsimp only; omega,
      by dsimp only; omega⟩

theorem start_lt {position stride extent : Nat} (positive : 0 < stride)
    (inside : position < extent / stride) :
    position * stride < extent :=
  calc position * stride < (position + 1) * stride :=
    Nat.mul_lt_mul_of_pos_right (Nat.lt_succ_self _) positive
    _ ≤ extent := Nat.mul_le_of_le_div _ _ _ inside

namespace Admitted

variable (admitted : geometry.Admitted)

include admitted

theorem srcHolds : 0 < geometry.src.count :=
  admitted.src.holds_of_rows (Nat.lt_of_lt_of_le admitted.rowStride admitted.rows)

theorem dest_dims : geometry.dest.dims = ⟨geometry.src.dims.samples, geometry.src.dims.channels,
    geometry.src.dims.rows / geometry.window.stride.1,
      geometry.src.dims.cols / geometry.window.stride.2⟩ := by
  obtain ⟨samples, channels, -, -⟩ := Shape.pos_of_count admitted.srcHolds
  rw [admitted.dest, Layout.dims_ofShape]
  exact Shape.collapse_of_pos samples channels (Nat.div_pos admitted.rows admitted.rowStride)
    (Nat.div_pos admitted.cols admitted.colStride)

theorem src_plane_pos : 0 < geometry.src.plane := by
  obtain ⟨-, -, rows, cols⟩ := Shape.pos_of_count admitted.srcHolds
  exact Nat.mul_pos rows cols

theorem dest_plane_pos : 0 < geometry.dest.plane := by
  unfold Layout.plane Shape.plane
  rw [admitted.dest_dims]
  exact Nat.mul_pos (Nat.div_pos admitted.rows admitted.rowStride)
    (Nat.div_pos admitted.cols admitted.colStride)

-- Source and destination have the same planes, of different sizes.
theorem dest_count :
    geometry.dest.count = geometry.src.dims.samples * geometry.src.dims.channels *
      geometry.dest.plane := by
  rw [geometry.dest.count_eq_planes, admitted.dest_dims]

theorem corner_lt {row col : Nat} (inRows : row < geometry.dest.dims.rows)
    (inCols : col < geometry.dest.dims.cols) :
    geometry.corner row col < geometry.src.plane := by
  rw [admitted.dest_dims] at inRows inCols
  exact place_lt (start_lt admitted.rowStride inRows) (start_lt admitted.colStride inCols)

end Admitted

section

variable {row col offset : Nat}

/-- Only positions under the window are scanned. -/
theorem covers_of_mem_offsets (member : offset ∈ geometry.offsets row col) :
    ∃ y x, geometry.window.Covers geometry.src.dims row col y x ∧
      y * geometry.src.dims.cols + x = offset := by
  unfold offsets at member
  simp only [List.mem_flatMap, List.mem_map] at member
  obtain ⟨y, inRows, x, inCols, place⟩ := member
  obtain ⟨fromRow, rowEnd⟩ := within_of_mem_clipped inRows
  obtain ⟨fromCol, colEnd⟩ := within_of_mem_clipped inCols
  exact ⟨y, x, ⟨⟨fromRow, Nat.lt_min.mpr rowEnd⟩, fromCol, Nat.lt_min.mpr colEnd⟩, place⟩

/-- A window whose ends are counted is scanned at all the positions under it. -/
theorem mem_offsets (counted : geometry.window.Counted row col) :
    offset ∈ geometry.offsets row col ↔
      ∃ y x, geometry.window.Covers geometry.src.dims row col y x ∧
        y * geometry.src.dims.cols + x = offset := by
  refine ⟨covers_of_mem_offsets, ?_⟩
  rintro ⟨y, x, ⟨⟨fromRow, rowEnd⟩, fromCol, colEnd⟩, place⟩
  have inRows : y ∈ geometry.windowRows row := by
    refine (mem_clipped ..).mpr ⟨fromRow, ?_⟩
    rw [counted.1]
    exact Nat.lt_min.mp rowEnd
  have inCols : x ∈ geometry.windowCols col := by
    refine (mem_clipped ..).mpr ⟨fromCol, ?_⟩
    rw [counted.2]
    exact Nat.lt_min.mp colEnd
  exact List.mem_flatMap.mpr ⟨y, inRows, List.mem_map.mpr ⟨x, inCols, place⟩⟩

/-- A scan begins at the corner of its window, if it has a position to begin at. -/
theorem corner_of_head?_offsets :
    ∀ first ∈ (geometry.offsets row col).head?, first = geometry.corner row col := by
  unfold offsets corner windowRows windowCols clipped
  intro first begins
  cases rows : min (Counting.words.count (row * geometry.window.stride.1 + geometry.window.size.1))
      geometry.src.dims.rows - row * geometry.window.stride.1 with
  | zero => simp [rows] at begins
  | succ more =>
    cases cols : min (Counting.words.count
      (col * geometry.window.stride.2 + geometry.window.size.2))
        geometry.src.dims.cols - col * geometry.window.stride.2 with
    | zero =>
      have none (rows : List Nat) : rows.flatMap (fun _ => ([] : List Nat)) = [] :=
        List.flatMap_eq_nil_iff.mpr fun _ _ => rfl
      simp [cols, none] at begins
    | succ further =>
      rw [rows, cols, List.range'_succ, List.range'_succ] at begins
      exact (Option.some.inj begins).symm

/-- An end that wraps around comes before the start of its window. -/
theorem clipped_eq_nil {start size extent : Nat} (fits : size < wordSize)
    (wraps : ¬ Counting.words.Keeps (start + size)) : clipped start size extent = [] := by
  rw [Counting.keeps_words_iff] at wraps
  have before : (start + size) % wordSize ≤ start := by
    have below := Nat.mod_lt (start + size) (show 0 < wordSize by decide)
    rcases Nat.lt_or_ge start wordSize with within | beyond
    · rw [Nat.mod_eq_sub_mod (Nat.le_of_not_lt wraps), Nat.mod_eq_of_lt (by omega)]
      omega
    · omega
  have none : min (Counting.words.count (start + size)) extent - start = 0 :=
    Nat.sub_eq_zero_of_le (Nat.le_trans (Nat.min_le_left ..) before)
  unfold clipped
  rw [none, List.range'_zero]

/-- A window whose ends are not both counted is scanned nowhere. -/
theorem offsets_eq_nil (fits : geometry.window.Fits)
    (wraps : ¬ geometry.window.Counted row col) : geometry.offsets row col = [] := by
  unfold offsets
  rcases Classical.not_and_iff_not_or_not.mp wraps with rows | cols
  · have none : geometry.windowRows row = [] := clipped_eq_nil fits.1 rows
    rw [none, List.flatMap_nil]
  · have none : geometry.windowCols col = [] := clipped_eq_nil fits.2 cols
    simp [none]

theorem offset_lt (member : offset ∈ geometry.offsets row col) : offset < geometry.src.plane := by
  obtain ⟨y, x, ⟨⟨_, inRows⟩, _, inCols⟩, rfl⟩ := covers_of_mem_offsets member
  exact place_lt (Nat.lt_min.mp inRows).2 (Nat.lt_min.mp inCols).2

end

section

variable {plane : Array α} {row col : Nat} (size : plane.size = geometry.src.plane)

include size

variable (row col) in
theorem firstMatch_lt [BEq α] (value : α) :
    ∃ found, geometry.firstMatch plane row col value = some found ∧
      ∀ offset, found = some offset → offset < geometry.src.plane := by
  unfold firstMatch
  obtain ⟨found, searched, member⟩ := Buffer.findM?_of_total (geometry.offsets row col)
    (fun offset => do return (← plane[offset]?) == value) fun offset inWindow => by
      have inside : offset < plane.size := size ▸ offset_lt inWindow
      exact ⟨plane[offset] == value, by rw [Array.getElem?_eq_getElem inside]; rfl⟩
  exact ⟨found, searched, fun offset held => offset_lt (member offset held)⟩

variable [Lowest α] [LT α] [DecidableLT α]

theorem Admitted.argmax_lt (admitted : geometry.Admitted) (inRows : row < geometry.dest.dims.rows)
    (inCols : col < geometry.dest.dims.cols) :
    ∃ best, geometry.argmax plane row col = some best ∧ best.1 < geometry.src.plane := by
  unfold argmax
  refine Buffer.foldlM_of_invariant (fun best : Nat × α => best.1 < geometry.src.plane)
    (admitted.corner_lt inRows inCols) fun best held offset member => ?_
  have inside := offset_lt member
  have found : plane[offset]? = some plane[offset] := Array.getElem?_eq_getElem (size ▸ inside)
  refine ⟨if best.2 < plane[offset] then (offset, plane[offset]) else best, by rw [found]; rfl, ?_⟩
  split
  · exact inside
  · exact held

theorem Admitted.gradientTarget_lt [BEq α] (admitted : geometry.Admitted)
    (inRows : row < geometry.dest.dims.rows) (inCols : col < geometry.dest.dims.cols) (value : α) :
    ∃ target, geometry.gradientTarget plane row col value = some target ∧
      target < geometry.src.plane := by
  obtain ⟨found, searched, inside⟩ := firstMatch_lt row col size value
  obtain ⟨best, scanned, bestInside⟩ := admitted.argmax_lt size inRows inCols
  unfold gradientTarget
  rw [searched]
  cases found with
  | some offset => exact ⟨offset, rfl, inside offset rfl⟩
  | none => exact ⟨best.1, by simp [scanned], bestInside⟩

end

end Geometry

end TensorEngine.Pool

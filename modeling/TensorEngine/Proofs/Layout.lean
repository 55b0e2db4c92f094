import Mathlib.Algebra.BigOperators.Group.Finset.Sigma
import Mathlib.Tactic.Ring
import TensorEngine.Layout

/-! Row-major layouts as bijections. Positions inside a shape and flat indices below
its element count are the same things, so a sum over storage is a sum over positions. -/

set_option autoImplicit false

namespace TensorEngine

def Index.equivProd : Index ≃ Nat × Nat × Nat × Nat where
  toFun index := (index.sample, index.channel, index.row, index.col)
  invFun coords := ⟨coords.1, coords.2.1, coords.2.2.1, coords.2.2.2⟩
  left_inv _ := rfl
  right_inv _ := rfl

namespace Shape

theorem collapse_le (shape : Shape) :
    shape.collapse.rows ≤ shape.rows ∧ shape.collapse.cols ≤ shape.cols := by
  unfold collapse
  split
  · exact ⟨Nat.zero_le _, Nat.zero_le _⟩
  · exact ⟨Nat.le_refl _, Nat.le_refl _⟩

theorem pos_of_count {shape : Shape} (positive : 0 < shape.count) :
    0 < shape.samples ∧ 0 < shape.channels ∧ 0 < shape.rows ∧ 0 < shape.cols := by
  simpa [count, Nat.pos_iff_ne_zero, and_assoc] using positive

def positions (shape : Shape) : Finset Index :=
  (Finset.range shape.samples ×ˢ Finset.range shape.channels ×ˢ Finset.range shape.rows ×ˢ
    Finset.range shape.cols).map Index.equivProd.symm.toEmbedding

@[simp] theorem mem_positions {shape : Shape} {index : Index} :
    index ∈ shape.positions ↔ index.Within shape := by
  unfold positions
  rw [Finset.mem_map_equiv]
  simp [Index.equivProd, Index.Within]

theorem sum_positions {β : Type} [AddCommMonoid β] (shape : Shape) (f : Index → β) :
    ∑ index ∈ shape.positions, f index =
      ∑ sample ∈ Finset.range shape.samples, ∑ channel ∈ Finset.range shape.channels,
        ∑ row ∈ Finset.range shape.rows, ∑ col ∈ Finset.range shape.cols,
          f ⟨sample, channel, row, col⟩ := by
  unfold positions
  rw [Finset.sum_map]
  simp only [Finset.sum_product]
  rfl

-- Location by location, along the channels.
theorem sum_lanes {β : Type} [AddCommMonoid β] (shape : Shape) (f : Index → β) :
    ∑ index ∈ shape.positions, f index =
      ∑ sample ∈ Finset.range shape.samples, ∑ row ∈ Finset.range shape.rows,
        ∑ col ∈ Finset.range shape.cols, ∑ channel ∈ Finset.range shape.channels,
          f ⟨sample, channel, row, col⟩ := by
  rw [sum_positions]
  refine Finset.sum_congr rfl fun sample _ => ?_
  rw [Finset.sum_comm]
  exact Finset.sum_congr rfl fun row _ => Finset.sum_comm

theorem sum_positions_sample {β : Type} [AddCommMonoid β] {shape : Shape} {sample : Nat}
    (inside : sample < shape.samples) (f : Index → β) :
    ∑ index ∈ shape.positions, (if index.sample = sample then f index else 0) =
      ∑ channel ∈ Finset.range shape.channels, ∑ row ∈ Finset.range shape.rows,
        ∑ col ∈ Finset.range shape.cols, f ⟨sample, channel, row, col⟩ := by
  rw [sum_positions, Finset.sum_eq_single_of_mem sample (Finset.mem_range.mpr inside)]
  · simp only [if_true]
  · intro other _ different
    simp [different]

theorem sum_positions_channel {β : Type} [AddCommMonoid β] {shape : Shape} {channel : Nat}
    (inside : channel < shape.channels) (f : Index → β) :
    ∑ index ∈ shape.positions, (if index.channel = channel then f index else 0) =
      ∑ sample ∈ Finset.range shape.samples, ∑ row ∈ Finset.range shape.rows,
        ∑ col ∈ Finset.range shape.cols, f ⟨sample, channel, row, col⟩ := by
  rw [sum_positions]
  refine Finset.sum_congr rfl fun sample _ => ?_
  rw [Finset.sum_eq_single_of_mem channel (Finset.mem_range.mpr inside)]
  · simp only [if_true]
  · intro other _ different
    simp [different]

end Shape

namespace Layout

/-- The strides are those of the dimensions. -/
def RowMajor (layout : Layout) : Prop := layout = ofShape layout.dims

theorem rowMajor_ofShape (shape : Shape) : (ofShape shape).RowMajor := (ofShape_dims shape).symm

variable {layout : Layout}

theorem RowMajor.strides_eq (rowMajor : layout.RowMajor) :
    layout.strides = ⟨layout.dims.channels * layout.dims.rows * layout.dims.cols,
      layout.dims.rows * layout.dims.cols, layout.dims.cols, 1⟩ := by
  have dims := congrArg Layout.dims rowMajor
  have strides := congrArg Layout.strides rowMajor
  rw [dims_ofShape] at dims
  simp only [ofShape] at strides
  rw [← dims] at strides
  exact strides

-- A shape without elements is the empty shape, so one positive dimension is enough.
theorem RowMajor.empty_or_holds (rowMajor : layout.RowMajor) :
    layout.dims = Shape.empty ∨ 0 < layout.count := by
  have dims := congrArg Layout.dims rowMajor
  rw [dims_ofShape] at dims
  unfold Shape.collapse at dims
  split at dims
  · exact .inl dims
  · rename_i positive
    simp only [not_or, ← Nat.pos_iff_ne_zero] at positive
    obtain ⟨samples, channels, rows, cols⟩ := positive
    exact .inr (Nat.mul_pos (Nat.mul_pos (Nat.mul_pos samples channels) rows) cols)

theorem RowMajor.holds_of_rows (rowMajor : layout.RowMajor) (rows : 0 < layout.dims.rows) :
    0 < layout.count :=
  rowMajor.empty_or_holds.resolve_left fun empty => by simp [empty, Shape.empty] at rows

theorem RowMajor.holds_of_samples (rowMajor : layout.RowMajor) (samples : 0 < layout.dims.samples) :
    0 < layout.count :=
  rowMajor.empty_or_holds.resolve_left fun empty => by simp [empty, Shape.empty] at samples

theorem count_eq_planes (layout : Layout) :
    layout.count = layout.dims.samples * layout.dims.channels * layout.plane := Nat.mul_assoc _ _ _

theorem RowMajor.count_eq_samples (rowMajor : layout.RowMajor) :
    layout.count = layout.dims.samples * layout.strides.sample := by
  rw [rowMajor.strides_eq]
  unfold count Shape.count
  ring

-- Rows of columns, planes of rows and samples of planes follow one another.
theorem RowMajor.offset_eq (rowMajor : layout.RowMajor) (index : Index) :
    layout.offset index =
      ((index.sample * layout.dims.channels + index.channel) * layout.dims.rows + index.row) *
        layout.dims.cols + index.col := by
  unfold offset
  rw [rowMajor.strides_eq]
  ring

theorem RowMajor.position_eq (rowMajor : layout.RowMajor) (flat : Nat) :
    layout.position flat =
      { sample := flat / layout.dims.cols / layout.dims.rows / layout.dims.channels
        channel := flat / layout.dims.cols / layout.dims.rows % layout.dims.channels
        row := flat / layout.dims.cols % layout.dims.rows
        col := flat % layout.dims.cols } := by
  unfold position
  rw [rowMajor.strides_eq]
  simp only [Nat.div_div_eq_div_mul]
  congr 2
  · ring
  · rw [Nat.mul_comm]

-- Reading a flat index off its plane gives the same position.
theorem RowMajor.planePosition_eq (rowMajor : layout.RowMajor) (flat : Nat) :
    layout.planePosition flat = layout.position flat := by
  rw [rowMajor.position_eq]
  unfold planePosition plane Shape.plane
  simp only [Index.mk.injEq]
  refine ⟨?_, ?_, ?_, ?_⟩
  · rw [Nat.div_div_eq_div_mul flat layout.dims.cols, Nat.mul_comm layout.dims.cols]
  · rw [Nat.div_div_eq_div_mul flat layout.dims.cols, Nat.mul_comm layout.dims.cols]
  · rw [Nat.mul_comm, Nat.mod_mul_right_div_self]
  · exact Nat.mod_mul_left_mod flat _ _

theorem RowMajor.offset_lt (rowMajor : layout.RowMajor) {index : Index}
    (within : index.Within layout.dims) :
    layout.offset index < layout.count := by
  obtain ⟨sample, channel, row, col⟩ := within
  rw [rowMajor.offset_eq]
  exact place_lt (place_lt (place_lt sample channel) row) col

theorem RowMajor.position_offset (rowMajor : layout.RowMajor) {index : Index}
    (within : index.Within layout.dims) : layout.position (layout.offset index) = index := by
  obtain ⟨_, channel, row, col⟩ := within
  rw [rowMajor.position_eq, rowMajor.offset_eq, place_div col, place_mod col, place_div row,
    place_mod row, place_div channel, place_mod channel]

theorem RowMajor.offset_position (rowMajor : layout.RowMajor) (flat : Nat) :
    layout.offset (layout.position flat) = flat := by
  rw [rowMajor.offset_eq, rowMajor.position_eq]
  simp only [Nat.div_add_mod']

theorem RowMajor.position_within (rowMajor : layout.RowMajor) {flat : Nat}
    (inside : flat < layout.count) :
    (layout.position flat).Within layout.dims := by
  obtain ⟨samples, channels, rows, cols⟩ := Shape.pos_of_count (Nat.zero_lt_of_lt inside)
  rw [rowMajor.position_eq]
  -- Remainders are inside anyway; only the sample needs the bound.
  refine ⟨?_, Nat.mod_lt _ channels, Nat.mod_lt _ rows, Nat.mod_lt _ cols⟩
  simp only [Nat.div_div_eq_div_mul]
  apply Nat.div_lt_of_lt_mul
  calc flat < layout.count := inside
    _ = _ := by unfold count Shape.count; ring

theorem RowMajor.offset_injective (rowMajor : layout.RowMajor) {first second : Index}
    (inFirst : first.Within layout.dims) (inSecond : second.Within layout.dims) :
    layout.offset first = layout.offset second ↔ first = second := by
  constructor
  · intro same
    rw [← rowMajor.position_offset inFirst, same, rowMajor.position_offset inSecond]
  · exact congrArg layout.offset

/-- Summing over storage is summing over positions. -/
theorem RowMajor.sum_count (rowMajor : layout.RowMajor) {β : Type} [AddCommMonoid β] (f : Nat → β) :
    ∑ flat ∈ Finset.range layout.count, f flat =
      ∑ index ∈ layout.dims.positions, f (layout.offset index) := by
  refine Finset.sum_bij' (fun flat _ => layout.position flat) (fun index _ => layout.offset index)
    ?_ ?_ ?_ ?_ ?_
  · intro flat inside
    simpa using rowMajor.position_within (Finset.mem_range.mp inside)
  · intro index within
    simpa using rowMajor.offset_lt (Shape.mem_positions.mp within)
  · intro flat _
    exact rowMajor.offset_position flat
  · intro index within
    exact rowMajor.position_offset (Shape.mem_positions.mp within)
  · intro flat _
    rw [rowMajor.offset_position]

end Layout

end TensorEngine

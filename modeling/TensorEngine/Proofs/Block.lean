import TensorEngine.Proofs.Layout
import TensorEngine.Proofs.Storage

/-! Storage cut into blocks, one for each sample. A block is storage of its own, laid out
like a batch that holds only the one sample. -/

set_option autoImplicit false

namespace TensorEngine

variable {α : Type}

theorem place_eq_iff {row other col rest cols : Nat} (inCols : col < cols)
    (restInCols : rest < cols) :
    row * cols + col = other * cols + rest ↔ row = other ∧ col = rest := by
  constructor
  · intro same
    have rows := congrArg (· / cols) same
    have places := congrArg (· % cols) same
    rw [place_div inCols, place_div restInCols] at rows
    rw [place_mod inCols, place_mod restInCols] at places
    exact ⟨rows, places⟩
  · rintro ⟨rfl, rfl⟩
    rfl

namespace Buffer

section

variable [Zero α] [Add α]

theorem collected_congr (target : Array α) {values other : Array α} {moves : List (Nat × Nat)}
    (same : ∀ move ∈ moves, cell values move.2 = cell other move.2) (i : Nat) :
    collected target values moves i = collected target other moves i := by
  unfold collected
  refine List.foldl_ext _ _ _ fun total move member => ?_
  rw [same move (List.mem_of_mem_filter member)]

theorem collected_elsewhere {target values : Array α} {moves : List (Nat × Nat)} {i : Nat}
    (elsewhere : ∀ move ∈ moves, move.1 ≠ i) : collected target values moves i = cell target i := by
  have none : moves.filter (·.1 = i) = [] := List.filter_eq_nil_iff.mpr fun move member => by
    simpa using elsewhere move member
  unfold collected
  rw [none]
  rfl

-- Moves into a part of a target are moves into that part alone.
theorem collected_shift {target part values : Array α} {start i : Nat} (moves : List (Nat × Nat))
    (same : cell target (start + i) = cell part i) :
    collected target values (moves.map fun move => (start + move.1, move.2)) (start + i) =
      collected part values moves i := by
  unfold collected
  rw [List.filter_map, List.foldl_map, same]
  simp only [Function.comp_def, Nat.add_left_cancel_iff]

end

end Buffer

/-- The same place in another sample. -/
def Index.inSample (index : Index) (sample : Nat) : Index := { index with sample }

/-- The shape of one sample. -/
def Shape.single (shape : Shape) : Shape := { shape with samples := 1 }

namespace Layout

/-- The layout of a batch of one sample of these. -/
def single (layout : Layout) : Layout := ⟨layout.dims.single, layout.strides⟩

variable {layout : Layout}

theorem RowMajor.count_single (rowMajor : layout.RowMajor) :
    layout.single.count = layout.strides.sample := by
  rw [rowMajor.strides_eq]
  unfold count Shape.count single Shape.single
  ring

theorem RowMajor.single (rowMajor : layout.RowMajor) (holds : 0 < layout.count) :
    layout.single.RowMajor := by
  obtain ⟨-, channels, rows, cols⟩ := Shape.pos_of_count holds
  have dims : layout.single.dims.collapse = layout.single.dims :=
    Shape.collapse_of_pos Nat.one_pos channels rows cols
  unfold RowMajor ofShape
  rw [dims]
  exact congrArg _ rowMajor.strides_eq

theorem RowMajor.sample_pos (rowMajor : layout.RowMajor) (holds : 0 < layout.count) :
    0 < layout.strides.sample := by
  rw [rowMajor.count_eq_samples] at holds
  exact Nat.pos_of_mul_pos_left holds

-- Offsets do not depend on how many samples there are.
theorem offset_sample (layout : Layout) {index : Index} (first : index.sample = 0) (sample : Nat) :
    layout.offset (index.inSample sample) =
      sample * layout.strides.sample + layout.single.offset index := by
  unfold offset single Index.inSample
  rw [first]
  ring

section

variable [Zero α]

/-- The elements of one sample. -/
def block (layout : Layout) (storage : Array α) (sample : Nat) : Array α :=
  Buffer.cells layout.strides.sample fun place =>
    Buffer.cell storage (sample * layout.strides.sample + place)

@[simp] theorem size_block (layout : Layout) (storage : Array α) (sample : Nat) :
    (layout.block storage sample).size = layout.strides.sample := Buffer.size_cells ..

theorem cell_block (layout : Layout) (storage : Array α) (sample : Nat) {place : Nat}
    (inBlock : place < layout.strides.sample) :
    Buffer.cell (layout.block storage sample) place = Buffer.cell storage
      (sample * layout.strides.sample + place) :=
  Buffer.cell_cells _ inBlock

omit [Zero α] in
theorem RowMajor.block_reach (rowMajor : layout.RowMajor) {storage : Array α}
    (size : storage.size = layout.count) {sample place : Nat}
    (inside : sample < layout.dims.samples) (inBlock : place < layout.strides.sample) :
    sample * layout.strides.sample + place < storage.size := by
  rw [size, rowMajor.count_eq_samples]
  exact place_lt inside inBlock

theorem RowMajor.read_block (rowMajor : layout.RowMajor) (storage : Array α) {index : Index}
    (within : index.Within layout.single.dims) (holds : 0 < layout.count) (sample : Nat) :
    Buffer.read layout.single (layout.block storage sample) index = Buffer.read layout storage
      (index.inSample sample) := by
  have inBlock := (rowMajor.single holds).offset_lt within
  rw [rowMajor.count_single] at inBlock
  unfold Buffer.read
  rw [layout.cell_block _ _ inBlock, layout.offset_sample (Nat.lt_one_iff.mp within.1)]

theorem RowMajor.block_cells (rowMajor : layout.RowMajor) {sample : Nat}
    (inside : sample < layout.dims.samples) (value : Nat → α) :
    layout.block (Buffer.cells layout.count value) sample =
      Buffer.cells layout.strides.sample fun place =>
        value (sample * layout.strides.sample + place) :=
  Buffer.cells_congr fun _ inBlock => Buffer.cell_cells _ <| by
    rw [rowMajor.count_eq_samples]
    exact place_lt inside inBlock

/-- Replacing one block leaves the others alone. -/
theorem RowMajor.block_overwrite (rowMajor : layout.RowMajor) {target values : Array α}
    (size : target.size = layout.count) (whole : values.size = layout.strides.sample)
    {sample other : Nat} (inside : other < layout.dims.samples) :
    layout.block (Buffer.overwrite target (sample * layout.strides.sample) values) other =
      if other = sample then values else layout.block target other := by
  have cells : ∀ place < layout.strides.sample,
      Buffer.cell (Buffer.overwrite target (sample * layout.strides.sample) values)
        (other * layout.strides.sample + place) =
        if other = sample then Buffer.cell values place
        else Buffer.cell target (other * layout.strides.sample + place) := by
    intro place inBlock
    rw [Buffer.cell_overwrite _ (rowMajor.block_reach size inside inBlock), whole]
    by_cases same : other = sample
    · subst same
      rw [if_pos ⟨Nat.le_add_right _ _, Nat.add_lt_add_left inBlock _⟩, if_pos rfl,
        Nat.add_sub_cancel_left]
    · -- A cell lies in one block only.
      rw [if_neg same, if_neg]
      rintro ⟨after, before⟩
      obtain ⟨rest, split⟩ := Nat.exists_eq_add_of_le after
      rw [split] at before
      exact same ((place_eq_iff inBlock (Nat.lt_of_add_lt_add_left before)).mp split).1
  by_cases same : other = sample
  · rw [if_pos same]
    refine Buffer.eq_of_cells ((size_block ..).trans whole.symm) fun place inBlock => ?_
    rw [size_block] at inBlock
    rw [layout.cell_block _ _ inBlock, cells place inBlock, if_pos same]
  · rw [if_neg same]
    exact Buffer.cells_congr fun place inBlock => (cells place inBlock).trans (if_neg same)

end

end Layout

end TensorEngine

import TensorEngine.Proofs.Block
import TensorEngine.Proofs.Conv.Destination

/-! A batch is convolved sample by sample. The forward and the data pass make of each
block of a batch what they make of that sample alone; the filter gradient of a batch is
the sum of those of its samples. -/

set_option autoImplicit false

namespace TensorEngine.Conv

variable {α : Type} {geometry : Geometry}

namespace Geometry

/-- The geometry of one sample alone. -/
def single (geometry : Geometry) : Geometry := { geometry with data := geometry.data.single }

namespace Admitted

variable (admitted : geometry.Admitted)

include admitted

theorem single : geometry.single.Admitted where
  data := admitted.data.single admitted.dataHolds
  filters := admitted.filters
  dataHolds :=
    Nat.lt_of_lt_of_eq (admitted.data.sample_pos admitted.dataHolds) admitted.data.count_single.symm
  filtersHold := admitted.filtersHold
  channels := admitted.channels
  rowStride := admitted.rowStride
  colStride := admitted.colStride

theorem output_single : geometry.single.output = geometry.output.single := by
  have dims : geometry.single.output.dims = geometry.output.single.dims := by
    unfold Layout.single
    rw [admitted.single.output_dims, admitted.output_dims]
    rfl
  have alone := geometry.output_rowMajor.single admitted.outputHolds
  exact geometry.single.output_rowMajor.trans ((congrArg Layout.ofShape dims).trans alone.symm)

theorem sampleCount_output : geometry.single.output.count = geometry.output.strides.sample :=
  (congrArg Layout.count admitted.output_single).trans geometry.output_rowMajor.count_single

theorem columnCols_single : geometry.single.columnCols = geometry.columnCols :=
  congrArg (·.dims.plane) admitted.output_single

theorem target_single {pass : Pass} (perSample : pass ≠ .backwardFilter) :
    geometry.single.target pass = (geometry.target pass).single := by
  cases pass with
  | forward => exact admitted.output_single
  | backwardData => rfl
  | backwardFilter => contradiction

end Admitted

theorem Fits.single [Zero α] {pass : Pass} {target first second other : Array α}
    (fits : geometry.Fits pass target first second) (admitted : geometry.Admitted)
    (perSample : pass ≠ .backwardFilter) (size : other.size = (geometry.target pass).strides.sample)
    (sample : Nat) :
    geometry.single.Fits pass other ((geometry.first pass).block first sample) second where
  target := by
    rw [admitted.target_single perSample, (admitted.target_rowMajor pass).count_single, size]
  first := by
    rw [Layout.size_block]
    cases pass with
    | forward => exact admitted.data.count_single.symm
    | backwardData => exact admitted.sampleCount_output.symm
    | backwardFilter => exact admitted.sampleCount_output.symm
  second := by
    cases pass with
    | forward => exact fits.second
    | backwardData => exact fits.second
    | backwardFilter => contradiction

end Geometry

/-! Direct convolution: the terms of one sample lie in its block, in one and the same order. -/

theorem map_sweep {γ δ : Type} (rows cols : Nat) (rowOf colOf : Nat → Option Nat)
    (visit : Nat → Nat → Nat → Nat → γ) (f : γ → δ) :
    (sweep rows cols rowOf colOf visit).map f =
      sweep rows cols rowOf colOf fun row atRow col atCol => f (visit row atRow col atCol) := by
  unfold sweep
  rw [List.map_flatMap]
  congr 1
  funext row
  cases rowOf row with
  | none => rfl
  | some atRow => simp [List.map_filterMap, Function.comp_def]

namespace Geometry

end Geometry

section

variable [Zero α] [Add α] [Mul α]

end

/-! Lowered convolution: the column matrix of a sample, its product and where the product
goes are those of the sample alone. -/

namespace Geometry

variable (admitted : geometry.Admitted)

include admitted

theorem Admitted.columnMoves_sample (sample : Nat) :
    geometry.columnMoves sample = (geometry.single.columnMoves 0).map fun move =>
      (sample * geometry.data.strides.sample + move.1, move.2) := by
  have locations := admitted.columnCols_single
  unfold columnMoves
  dsimp only
  rw [List.map_flatMap, admitted.output_single, locations]
  congr 1
  funext channel
  rw [List.map_flatMap]
  congr 1
  funext tap
  rw [map_sweep]
  congr 1
  funext outRow row outCol col
  exact congrArg (Prod.mk · _)
    (geometry.data.offset_sample (rfl : Index.sample ⟨0, channel, row, col⟩ = 0) sample)

end Geometry

section

variable [Zero α] [One α] [MatrixProduct α] [MatrixProduct.Assigning α]
  (admitted : geometry.Admitted)

include admitted

end

section

variable [Zero α] [Add α]

/-- What raising a column matrix makes of the block of its sample. -/
def raisedBlock (geometry : Geometry) (block columns : Array α) : Array α :=
  Buffer.cells geometry.data.strides.sample
    (Buffer.collected block columns (geometry.single.columnMoves 0))

variable (admitted : geometry.Admitted)

include admitted

-- Only the column matrix is raised, whatever else the workspace holds.
theorem raisedBlock_overwrite (block : Array α) {workspace : Array α}
    (room : geometry.columnRows * geometry.columnCols ≤ workspace.size)
    (columns : Entries α geometry.columnRows geometry.columnCols) :
    raisedBlock geometry block (Buffer.overwrite workspace 0 columns.toStorage) =
      raisedBlock geometry block columns.toStorage := by
  refine Buffer.cells_congr fun place _ => Buffer.collected_congr _ (fun move member => ?_) place
  have inMatrix := (admitted.single.columnMoves_inside Nat.one_pos move member).2
  rw [admitted.columnCols_single] at inMatrix
  have inside : 0 ≤ move.2 ∧ move.2 < 0 + columns.toStorage.size := by
    rw [Nat.zero_add, Entries.size_toStorage]
    exact ⟨Nat.zero_le _, inMatrix⟩
  rw [Buffer.cell_overwrite _ (Nat.lt_of_lt_of_le inMatrix room), if_pos inside, Nat.sub_zero]

theorem block_collected {target columns : Array α} (size : target.size = geometry.data.count)
    (sample : Nat) {other : Nat} (inside : other < geometry.data.dims.samples) :
    geometry.data.block (Buffer.cells target.size
      (Buffer.collected target columns (geometry.columnMoves sample))) other =
      if other = sample then raisedBlock geometry (geometry.data.block target other) columns
      else geometry.data.block target other := by
  have moves : ∀ move ∈ geometry.single.columnMoves 0, move.1 < geometry.data.strides.sample :=
    fun move member =>
      Nat.lt_of_lt_of_eq (admitted.single.columnMoves_inside Nat.one_pos move member).1
        admitted.data.count_single
  rw [size, admitted.data.block_cells inside, admitted.columnMoves_sample]
  by_cases same : other = sample
  · subst same
    rw [if_pos rfl]
    exact Buffer.cells_congr fun place inBlock =>
      Buffer.collected_shift _ (geometry.data.cell_block target other inBlock).symm
  · rw [if_neg same]
    refine Buffer.cells_congr fun place inBlock => Buffer.collected_elsewhere fun move member => ?_
    obtain ⟨move, inSingle, rfl⟩ := List.mem_map.mp member
    exact fun reached => same ((place_eq_iff (moves move inSingle) inBlock).mp reached).1.symm

end

section

variable [Zero α] [One α] [MatrixProduct α] [MatrixProduct.Assigning α]
  (admitted : geometry.Admitted)

include admitted

/-- The blocks of the samples that are done hold their products. -/
structure ProductsBelow (geometry : Geometry) (data filters target : Array α) (samples : Nat)
    (written : Written α) :
    Prop where
  underway : Underway geometry .forward data filters written
  blocks : ∀ sample < samples, geometry.output.block written.target sample =
    (forwardBlock geometry data filters target sample).toStorage

theorem ProductsBelow.forwardSample {target data filters : Array α} {sample : Nat}
    (inside : sample < geometry.data.dims.samples) {written : Written α}
    (held : ProductsBelow geometry data filters target sample written) :
    ∃ next, Conv.forwardSample geometry data filters written sample = some next ∧
      ProductsBelow geometry data filters target (sample + 1) next := by
  obtain ⟨underway, before⟩ := held
  refine ⟨_, forwardSample_eq_some admitted underway.fits underway.room inside,
    underway.of_sizes (Buffer.size_overwrite ..) (Buffer.size_overwrite ..), fun other below => ?_⟩
  have whole :=
    (Entries.size_toStorage (forwardBlock geometry data filters written.target sample)).trans
    geometry.sampleLength_eq.symm
  have within : other < geometry.output.dims.samples :=
    Nat.lt_of_lt_of_eq (Nat.lt_of_lt_of_le below inside) admitted.output_samples.symm
  refine (geometry.output_rowMajor.block_overwrite underway.fits.target whole within).trans ?_
  by_cases current : other = sample
  · rw [if_pos current, current, forwardBlock_congr data filters written.target target]
  · rw [if_neg current]
    exact before other (by omega)

variable [Add α]

/-- The blocks of the samples that are done have their column matrices raised into them,
the others are as they were. -/
structure RaisedBelow (geometry : Geometry) (outputGradient filters target workspace : Array α)
    (samples : Nat) (written : Written α) : Prop where
  underway : Underway geometry .backwardData outputGradient filters written
  blocks : ∀ sample < geometry.data.dims.samples, geometry.data.block written.target sample =
    if sample < samples then raisedBlock geometry (geometry.data.block target sample)
      (dataGradientBlock geometry outputGradient filters workspace sample).toStorage
    else geometry.data.block target sample

theorem RaisedBelow.dataGradientSample {target outputGradient filters workspace : Array α}
    {sample : Nat} (inside : sample < geometry.data.dims.samples) {written : Written α}
    (held : RaisedBelow geometry outputGradient filters target workspace sample written) :
    ∃ next, Conv.dataGradientSample geometry outputGradient filters written sample = some next ∧
      RaisedBelow geometry outputGradient filters target workspace (sample + 1) next := by
  obtain ⟨underway, before⟩ := held
  refine ⟨_, dataGradientSample_eq_some admitted underway.fits underway.room inside rfl,
    underway.of_sizes (Buffer.size_cells ..) (Buffer.size_overwrite ..), fun other within => ?_⟩
  dsimp only
  rw [block_collected admitted underway.fits.target sample within, before other within, ite_lt_succ]
  by_cases current : other = sample
  · subst current
    rw [if_pos rfl, if_pos rfl, if_neg (Nat.lt_irrefl _),
      raisedBlock_overwrite admitted _ underway.room]
    -- What the workspace holds before the product is not read.
    congr 2
    exact MatrixProduct.Assigning.multiplyAdd_zero ..
  · rw [if_neg current, if_neg current]

variable {target first second workspace : Array α}

variable [Mul α]

end

/-! The filter gradient is one sum over all samples. -/

end TensorEngine.Conv

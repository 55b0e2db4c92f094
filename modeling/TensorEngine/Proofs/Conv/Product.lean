import TensorEngine.Conv.Kernel
import TensorEngine.Proofs.Conv.Lowering

/-! Convolution by matrix products, sample by sample. What a sample writes is stated
for any scalars; in exact arithmetic it is the sample's part of the result. -/

set_option autoImplicit false

namespace TensorEngine.Conv

variable {α : Type} {geometry : Geometry}

theorem Geometry.sampleLength_eq (geometry : Geometry) :
    geometry.sampleLength = geometry.output.dims.channels * geometry.columnCols := by
  unfold sampleLength
  rw [geometry.output_rowMajor.strides_eq]
  exact Nat.mul_assoc _ _ _

theorem Geometry.Admitted.output_count (admitted : geometry.Admitted) :
    geometry.output.count = geometry.data.dims.samples * geometry.sampleLength := by
  rw [geometry.sampleLength_eq, ← admitted.output_samples]
  unfold Layout.count Shape.count columnCols Layout.plane Shape.plane
  ring

theorem Geometry.Admitted.filters_count (admitted : geometry.Admitted) :
    geometry.filters.count = geometry.output.dims.channels * geometry.columnRows := by
  rw [admitted.output_channels]
  unfold Layout.count Shape.count columnRows
  ring

theorem Geometry.Admitted.filters_fit (admitted : geometry.Admitted) {storage : Array α}
    (size : storage.size = geometry.filters.count) :
    geometry.output.dims.channels * geometry.columnRows ≤ storage.size :=
  Nat.le_of_eq (admitted.filters_count.symm.trans size.symm)

theorem fillWorkspace_eq_some {workspace columns : Array α}
    (room : geometry.columnRows * geometry.columnCols ≤ workspace.size) :
    fillWorkspace geometry workspace columns = some (Buffer.overwrite workspace 0 columns) :=
  if_pos room

theorem Geometry.Admitted.outputSlice_eq_some [Zero α] (admitted : geometry.Admitted)
    {storage : Array α} {sample : Nat} (size : storage.size = geometry.output.count)
    (inside : sample < geometry.data.dims.samples) :
    (geometry.outputSlice storage sample).bind
        (Entries.ofStorage? · geometry.output.dims.channels geometry.columnCols) =
      some (Entries.view storage (sample * geometry.sampleLength) geometry.output.dims.channels
        geometry.columnCols) := by
  unfold outputSlice
  apply Entries.ofStorage?_slice
  · rw [Nat.succ_mul, geometry.sampleLength_eq]
  · rw [size, admitted.output_count]
    exact Nat.mul_le_mul_right _ inside

section

variable [Zero α] [One α] [MatrixProduct α]

def forwardBlock (geometry : Geometry) (data filters target : Array α) (sample : Nat) :
    Entries α geometry.output.dims.channels geometry.columnCols :=
  MatrixProduct.multiplyAdd 1
    (Entries.view filters 0 geometry.output.dims.channels geometry.columnRows)
    (columnMatrix geometry data sample) 0 (Entries.view target (sample * geometry.sampleLength) _ _)

theorem forwardSample_eq_some (admitted : geometry.Admitted) {data filters : Array α}
    {written : Written α} {sample : Nat} (fits : geometry.Fits .forward written.target data filters)
    (room : geometry.columnRows * geometry.columnCols ≤ written.workspace.size)
    (inside : sample < geometry.data.dims.samples) :
    forwardSample geometry data filters written sample =
      some ⟨Buffer.overwrite written.target (sample * geometry.sampleLength)
          (forwardBlock geometry data filters written.target sample).toStorage,
        Buffer.overwrite written.workspace 0 (columnMatrix geometry data sample).toStorage⟩ := by
  obtain ⟨targetSize, firstSize, secondSize⟩ := fits
  have weights := admitted.filters_fit secondSize
  have roomAfter := room
  rw [← Buffer.size_overwrite written.workspace 0 (columnMatrix geometry data sample).toStorage]
    at roomAfter
  have before := admitted.outputSlice_eq_some targetSize inside
  -- The product takes the column matrix from the workspace it was just put in.
  unfold forwardSample
  rw [lower_eq_some admitted firstSize inside]
  simp only [Option.bind_eq_bind, Option.bind_some, fillWorkspace_eq_some room,
    Entries.ofStorage?_eq_some weights, Entries.ofStorage?_eq_some roomAfter,
    Entries.view_overwrite_toStorage room]
  rw [← Option.bind_assoc, before]
  rfl

def dataGradientBlock (geometry : Geometry) (outputGradient filters workspace : Array α)
    (sample : Nat) :
    Entries α geometry.columnRows geometry.columnCols :=
  MatrixProduct.multiplyAdd 1
    (Entries.transpose (Entries.view filters 0 geometry.output.dims.channels geometry.columnRows))
    (Entries.view outputGradient (sample * geometry.sampleLength) _ _) 0
      (Entries.view workspace 0 _ _)

theorem dataGradientSample_eq_some [Add α] (admitted : geometry.Admitted)
    {outputGradient filters : Array α} {written : Written α} {sample : Nat}
    (fits : geometry.Fits .backwardData written.target outputGradient filters)
    (room : geometry.columnRows * geometry.columnCols ≤ written.workspace.size)
    (inside : sample < geometry.data.dims.samples) {workspace : Array α}
    (filled : workspace = Buffer.overwrite written.workspace 0
      (dataGradientBlock geometry outputGradient filters written.workspace sample).toStorage) :
    dataGradientSample geometry outputGradient filters written sample =
      some ⟨Buffer.cells written.target.size
        (Buffer.collected written.target workspace (geometry.columnMoves sample)), workspace⟩ := by
  obtain ⟨targetSize, firstSize, secondSize⟩ := fits
  have weights := admitted.filters_fit secondSize
  have roomAfter : geometry.columnRows * geometry.columnCols ≤ workspace.size := by
    rw [filled, Buffer.size_overwrite]
    exact room
  have raised := raise_eq_some admitted targetSize inside roomAfter
  have share := admitted.outputSlice_eq_some firstSize inside
  unfold dataGradientSample
  simp only [Option.bind_eq_bind, Option.bind_some, fillWorkspace_eq_some room,
    Entries.ofStorage?_eq_some weights, Entries.ofStorage?_eq_some room]
  unfold dataGradientBlock at filled
  rw [← Option.bind_assoc, share, Option.bind_some, ← filled, raised]
  rfl

def filterGradientBlock (geometry : Geometry) (outputGradient data target : Array α)
    (sample : Nat) :
    Entries α geometry.output.dims.channels geometry.columnRows :=
  MatrixProduct.multiplyAdd 1 (Entries.view outputGradient (sample * geometry.sampleLength) _ _)
    (Entries.transpose (columnMatrix geometry data sample)) 1 (Entries.view target 0 _ _)

theorem filterGradientSample_eq_some (admitted : geometry.Admitted) {outputGradient data : Array α}
    {written : Written α} {sample : Nat}
    (fits : geometry.Fits .backwardFilter written.target outputGradient data)
    (room : geometry.columnRows * geometry.columnCols ≤ written.workspace.size)
    (inside : sample < geometry.data.dims.samples) :
    filterGradientSample geometry outputGradient data written sample =
      some ⟨Buffer.overwrite written.target 0
          (filterGradientBlock geometry outputGradient data written.target sample).toStorage,
        Buffer.overwrite written.workspace 0 (columnMatrix geometry data sample).toStorage⟩ := by
  obtain ⟨targetSize, firstSize, secondSize⟩ := fits
  have whole := admitted.filters_fit targetSize
  have roomAfter := room
  rw [← Buffer.size_overwrite written.workspace 0 (columnMatrix geometry data sample).toStorage]
    at roomAfter
  have share := admitted.outputSlice_eq_some firstSize inside
  unfold filterGradientSample
  rw [lower_eq_some admitted secondSize inside]
  simp only [Option.bind_eq_bind, Option.bind_some, fillWorkspace_eq_some room,
    Entries.ofStorage?_eq_some whole, Entries.ofStorage?_eq_some roomAfter,
    Entries.view_overwrite_toStorage room]
  rw [← Option.bind_assoc, share]
  rfl

end

end TensorEngine.Conv

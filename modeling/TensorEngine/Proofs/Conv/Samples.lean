import TensorEngine.Proofs.Conv.Product

/-! The lowered algorithm in exact arithmetic. What each sample contributes is
followed through a run, from the previous contents of the target to the result. -/

set_option autoImplicit false

namespace TensorEngine.Conv

variable {α : Type} {geometry : Geometry}

theorem overSamples_of_invariant {step : Written α → Nat → Option (Written α)} {start : Written α}
    (invariant : Nat → Written α → Prop) (begins : invariant 0 start)
    (steps : ∀ sample < geometry.data.dims.samples, ∀ written, invariant sample written →
      ∃ next, step written sample = some next ∧ invariant (sample + 1) next) :
    ∃ last, overSamples geometry step start = some last ∧
      invariant geometry.data.dims.samples last := by
  unfold overSamples
  generalize geometry.data.dims.samples = count at steps ⊢
  -- Samples are added at the end, so that the invariant counts those that are done.
  induction count with
  | zero => exact ⟨start, rfl, begins⟩
  | succ count ih =>
    obtain ⟨written, before, kept⟩ := ih fun sample inside => steps sample (by omega)
    obtain ⟨next, stepped, keptNext⟩ := steps count (by omega) written kept
    refine ⟨next, ?_, keptNext⟩
    rw [List.range_succ, List.foldlM_append, before]
    simp [stepped]

-- One more sample is done: those before it are untouched, and its own part is new.
theorem ite_lt_succ {β : Type} (sample samples : Nat) (done rest : β) :
    (if sample < samples + 1 then done else rest) =
      if sample = samples then done else if sample < samples then done else rest := by
  by_cases current : sample = samples
  · rw [if_pos current, if_pos (by omega)]
  · have same : sample < samples + 1 ↔ sample < samples := by omega
    rw [if_neg current, if_congr same rfl rfl]

section

variable [Zero α]

theorem view_filters (admitted : geometry.Admitted) (filters : Array α)
    (row : Fin geometry.output.dims.channels) (col : Fin geometry.columnRows) :
    Entries.view filters 0 _ _ row col = Buffer.read geometry.filters filters
      (geometry.tapAt row col) := by
  unfold Entries.view Buffer.read
  rw [Geometry.offset_tapAt admitted.filters, Nat.zero_add]

theorem view_outputs (outputs : Array α) (sample : Nat) (row : Fin geometry.output.dims.channels)
    (col : Fin geometry.columnCols) :
    Entries.view outputs (sample * geometry.sampleLength) _ _ row col =
      Buffer.read geometry.output outputs (geometry.outputAt sample row col) := by
  unfold Entries.view Buffer.read
  rw [geometry.offset_outputAt, geometry.sampleLength_eq]
  congr 1
  ring

theorem Geometry.Admitted.sampleLength_pos (admitted : geometry.Admitted) :
    0 < geometry.sampleLength := by
  have holds := admitted.outputHolds
  rw [admitted.output_count] at holds
  exact Nat.pos_of_mul_pos_left holds

theorem Geometry.Admitted.position_output (admitted : geometry.Admitted) {sample place : Nat}
    (inside : sample < geometry.data.dims.samples)
    (inBlock : place < geometry.output.dims.channels * geometry.columnCols) :
    geometry.output.position (sample * geometry.sampleLength + place) =
      geometry.outputAt sample (place / geometry.columnCols) (place % geometry.columnCols) := by
  have inRows : place / geometry.columnCols < geometry.output.dims.channels :=
    Nat.div_lt_of_lt_mul (Nat.mul_comm _ _ ▸ inBlock)
  have wide : 0 < geometry.columnCols := Nat.pos_of_lt_mul_left inBlock
  have offset :=
    geometry.offset_outputAt sample (place / geometry.columnCols) (place % geometry.columnCols)
  rw [Nat.add_mul, Nat.mul_assoc, ← geometry.sampleLength_eq, Nat.add_assoc, Nat.div_add_mod']
    at offset
  rw [← offset, geometry.output_rowMajor.position_offset]
  exact admitted.outputAt_within inside (admitted.output_channels ▸ inRows) (Nat.mod_lt _ wide)

theorem overwrite_outputs (admitted : geometry.Admitted) {target : Array α} {sample : Nat}
    (inside : sample < geometry.data.dims.samples)
    {block : Entries α geometry.output.dims.channels geometry.columnCols} (value : Index → α)
    (same : ∀ row col, block row col = value (geometry.outputAt sample row col)) :
    Buffer.overwrite target (sample * geometry.sampleLength) block.toStorage =
      Buffer.cells target.size fun flat =>
        if (geometry.output.position flat).sample = sample
          then value (geometry.output.position flat)
        else Buffer.cell target flat := by
  rw [Entries.toStorage_eq_cells (fun row col => value (geometry.outputAt sample row col)) same,
    Buffer.overwrite_cells]
  refine Buffer.cells_congr fun flat _ => ?_
  by_cases inBlock : sample * geometry.sampleLength ≤ flat ∧
      flat < sample * geometry.sampleLength + geometry.output.dims.channels * geometry.columnCols
  · obtain ⟨place, rfl⟩ := Nat.exists_eq_add_of_le inBlock.1
    have inPlace := Nat.lt_of_add_lt_add_left inBlock.2
    rw [if_pos inBlock, admitted.position_output inside inPlace, Nat.add_sub_cancel_left]
    exact (if_pos rfl).symm
  · -- Blocks have one length, so a cell with this sample would lie in this block.
    have elsewhere : (geometry.output.position flat).sample ≠ sample := by
      rintro rfl
      refine inBlock ⟨Nat.div_mul_le_self _ _, ?_⟩
      rw [← geometry.sampleLength_eq, ← Nat.succ_mul, Nat.mul_comm]
      exact Nat.lt_mul_div_succ flat admitted.sampleLength_pos
    rw [if_neg inBlock, if_neg elsewhere]

theorem Geometry.Admitted.position_filter (admitted : geometry.Admitted) {place : Nat}
    (inside : place < geometry.output.dims.channels * geometry.columnRows) :
    geometry.filters.position place = geometry.tapAt (place / geometry.columnRows)
      (place % geometry.columnRows) := by
  have inRows : place / geometry.columnRows < geometry.filters.dims.samples := by
    rw [← admitted.output_channels]
    exact Nat.div_lt_of_lt_mul (Nat.mul_comm _ _ ▸ inside)
  have tall : 0 < geometry.columnRows := Nat.pos_of_lt_mul_left inside
  have offset := Geometry.offset_tapAt admitted.filters (place / geometry.columnRows)
    (place % geometry.columnRows)
  rw [Nat.div_add_mod'] at offset
  have position :=
    admitted.filters.position_offset (admitted.tapAt_within inRows (Nat.mod_lt place tall))
  rw [offset] at position
  exact position

theorem overwrite_filters (admitted : geometry.Admitted) {target : Array α}
    (size : target.size = geometry.filters.count)
    {block : Entries α geometry.output.dims.channels geometry.columnRows} (value : Index → α)
    (same : ∀ row col, block row col = value (geometry.tapAt row col)) :
    Buffer.overwrite target 0 block.toStorage =
      Buffer.cells target.size fun flat => value (geometry.filters.position flat) := by
  rw [Entries.toStorage_eq_cells (fun row col => value (geometry.tapAt row col)) same,
    Buffer.overwrite_cells]
  refine Buffer.cells_congr fun flat inside => ?_
  rw [size, admitted.filters_count] at inside
  rw [if_pos ⟨Nat.zero_le _, by omega⟩, Nat.sub_zero, admitted.position_filter inside]

end

section

variable [CommSemiring α]

def filterPart (geometry : Geometry) (gradient data : Array α) (sample : Nat) (tap : Index) : α :=
  ∑ location ∈ Finset.range geometry.columnCols,
    Buffer.read geometry.output gradient (geometry.outputAt sample tap.sample location) *
      geometry.tapped (Buffer.read geometry.data data) (geometry.outputAt sample 0 location) tap

/-- Contents of the target once some of the samples are done. -/
def partialResult (geometry : Geometry) (pass : Pass) (target first second : Array α)
    (samples flat : Nat) : α :=
  match pass with
  | .forward =>
    if (geometry.output.position flat).sample < samples
      then geometry.share .forward first second flat
    else Buffer.cell target flat
  | .backwardData =>
    if (geometry.data.position flat).sample < samples then
      Buffer.cell target flat + geometry.share .backwardData first second flat
    else Buffer.cell target flat
  | .backwardFilter =>
    ∑ sample ∈ Finset.range samples,
      filterPart geometry first second sample (geometry.filters.position flat)

/-- How far a run has come; the workspace keeps its room and is otherwise free. -/
structure Progress (geometry : Geometry) (pass : Pass) (target first second : Array α)
    (samples : Nat) (written : Written α) : Prop where
  target : written.target = Buffer.cells target.size
    (partialResult geometry pass target first second samples)
  room : geometry.columnRows * geometry.columnCols ≤ written.workspace.size

theorem Progress.fits {pass : Pass} {target first second : Array α} {samples : Nat}
    {written : Written α} (progress : Progress geometry pass target first second samples written)
    (fits : geometry.Fits pass target first second) :
    geometry.Fits pass written.target first second := by
  refine ⟨?_, fits.first, fits.second⟩
  rw [progress.target, Buffer.size_cells]
  exact fits.target

-- Before the first sample nothing has happened, save that filter gradients are cleared.
theorem progress_start (pass : Pass) (target first second : Array α) {workspace : Array α}
    (room : geometry.columnRows * geometry.columnCols ≤ workspace.size) :
    Progress geometry pass target first second 0
      ⟨if pass = .backwardFilter then Buffer.zeros target.size else target, workspace⟩ := by
  refine ⟨?_, room⟩
  cases pass with
  | forward => exact (Buffer.cells_cell target).symm
  | backwardData => exact (Buffer.cells_cell target).symm
  | backwardFilter => exact Buffer.zeros_eq_cells target.size

theorem Progress.finished {pass : Pass} {target first second : Array α} {written : Written α}
    (admitted : geometry.Admitted) (fits : geometry.Fits pass target first second)
    (progress : Progress geometry pass target first second geometry.data.dims.samples written) :
    written.target = geometry.result pass target first second := by
  rw [progress.target]
  refine Buffer.cells_congr fun flat inside => ?_
  have within := (admitted.target_rowMajor pass).position_within (fits.target ▸ inside)
  cases pass with
  | forward => exact if_pos (Nat.lt_of_lt_of_eq within.1 admitted.output_samples)
  | backwardData => exact if_pos within.1
  | backwardFilter => exact (admitted.filterShare_samples _ _ within).symm

theorem ofWritten_overSamples {pass : Pass} {target first second : Array α}
    (admitted : geometry.Admitted) (fits : geometry.Fits pass target first second)
    {step : Written α → Nat → Option (Written α)} {start : Written α} (before : Written α)
    (begins : Progress geometry pass target first second 0 start)
    (steps : ∀ sample < geometry.data.dims.samples, ∀ written,
      Progress geometry pass target first second sample written → ∃ next, step written sample =
        some next ∧ Progress geometry pass target first second (sample + 1) next) :
    ∃ scratch, Run.ofWritten before (overSamples geometry step start) =
      ⟨.ok (), geometry.result pass target first second, some scratch⟩ := by
  obtain ⟨last, ran, progress⟩ := overSamples_of_invariant _ begins steps
  refine ⟨last.workspace, ?_⟩
  rw [ran, ← progress.finished admitted fits]
  rfl

variable [MatrixProduct α] [MatrixProduct.Exact α]

theorem forwardBlock_eq (admitted : geometry.Admitted) (data filters target : Array α)
    {sample : Nat} (inside : sample < geometry.data.dims.samples)
    (row : Fin geometry.output.dims.channels) (col : Fin geometry.columnCols) :
    forwardBlock geometry data filters target sample row col =
      geometry.outputShare (Buffer.read geometry.filters filters) (Buffer.read geometry.data data)
        (geometry.outputAt sample row col) := by
  have inFilters := Nat.lt_of_lt_of_eq row.isLt admitted.output_channels
  unfold forwardBlock
  rw [MatrixProduct.Exact.multiplyAdd_eq, one_mul, zero_mul, add_zero,
    admitted.outputShare_outputAt _ _ inside inFilters col.isLt, ← Fin.sum_univ_eq_sum_range]
  refine Finset.sum_congr rfl fun tap _ => ?_
  rw [view_filters admitted]
  rfl

theorem forwardSample_progress (admitted : geometry.Admitted) {target data filters : Array α}
    (fits : geometry.Fits .forward target data filters) {sample : Nat}
    (inside : sample < geometry.data.dims.samples) {written : Written α}
    (progress : Progress geometry .forward target data filters sample written) :
    ∃ next, forwardSample geometry data filters written sample = some next ∧
      Progress geometry .forward target data filters (sample + 1) next := by
  refine ⟨_, forwardSample_eq_some admitted (progress.fits fits) progress.room inside, ?_,
    by simpa using progress.room⟩
  dsimp only
  rw [overwrite_outputs admitted inside _
    (forwardBlock_eq admitted data filters written.target inside), progress.target,
    Buffer.size_cells]
  refine Buffer.cells_congr fun flat within => ?_
  rw [Buffer.cell_cells _ within]
  exact (ite_lt_succ _ sample _ _).symm

theorem dataGradientBlock_eq (admitted : geometry.Admitted)
    (outputGradient filters workspace : Array α) (sample : Nat) (row : Fin geometry.columnRows)
    (col : Fin geometry.columnCols) :
    dataGradientBlock geometry outputGradient filters workspace sample row col =
      ∑ filter ∈ Finset.range geometry.filters.dims.samples,
        Buffer.read geometry.filters filters (geometry.tapAt filter row) *
          Buffer.read geometry.output outputGradient (geometry.outputAt sample filter col) := by
  unfold dataGradientBlock
  rw [MatrixProduct.Exact.multiplyAdd_eq, one_mul, zero_mul, add_zero, ← admitted.output_channels,
    ← Fin.sum_univ_eq_sum_range]
  refine Finset.sum_congr rfl fun filter _ => ?_
  unfold Entries.transpose
  rw [view_filters admitted, view_outputs]

theorem columnShare_dataGradientBlock (admitted : geometry.Admitted)
    {outputGradient filters workspace : Array α}
    (room : geometry.columnRows * geometry.columnCols ≤ workspace.size) (sample : Nat)
    {element : Index} (within : element.Within geometry.data.dims) :
    geometry.columnShare (Buffer.overwrite workspace 0
        (dataGradientBlock geometry outputGradient filters workspace sample).toStorage) sample
          element =
      if element.sample = sample then
        geometry.dataShare (Buffer.read geometry.filters filters)
          (Buffer.read geometry.output outputGradient) element
      else 0 := by
  by_cases own : element.sample = sample
  · subst own
    rw [if_pos rfl, admitted.dataShare_columns _ _ within]
    refine Finset.sum_congr rfl fun row inRows => Finset.sum_congr rfl fun location inCols => ?_
    have entry := congrFun (congrFun (Entries.view_overwrite_toStorage room
      (dataGradientBlock geometry outputGradient filters workspace element.sample))
      ⟨row, Finset.mem_range.mp inRows⟩) ⟨location, Finset.mem_range.mp inCols⟩
    rw [dataGradientBlock_eq admitted] at entry
    unfold Entries.view at entry
    rw [Nat.zero_add] at entry
    rw [entry]
  · rw [if_neg own, geometry.columnShare_elsewhere _ own]

theorem dataGradientSample_progress (admitted : geometry.Admitted)
    {target outputGradient filters : Array α}
    (fits : geometry.Fits .backwardData target outputGradient filters) {sample : Nat}
    (inside : sample < geometry.data.dims.samples) {written : Written α}
    (progress : Progress geometry .backwardData target outputGradient filters sample written) :
    ∃ next, dataGradientSample geometry outputGradient filters written sample = some next ∧
      Progress geometry .backwardData target outputGradient filters (sample + 1) next := by
  refine ⟨_, dataGradientSample_eq_some admitted (progress.fits fits) progress.room inside rfl, ?_,
    by simpa using progress.room⟩
  have size : written.target.size = target.size := by rw [progress.target, Buffer.size_cells]
  dsimp only
  rw [size]
  refine Buffer.cells_congr fun flat within => ?_
  have position := admitted.data.position_within (fits.target ▸ within)
  -- Raising adds to what the samples before this one have left.
  have before : Buffer.read geometry.data written.target (geometry.data.position flat) =
      partialResult geometry .backwardData target outputGradient filters sample flat := by
    unfold Buffer.read
    rw [admitted.data.offset_position, progress.target, Buffer.cell_cells _ within]
  have collected := admitted.collected_columnMoves (Buffer.overwrite written.workspace 0
    (dataGradientBlock geometry outputGradient filters written.workspace sample).toStorage)
    written.target inside position
  rw [admitted.data.offset_position, before,
    columnShare_dataGradientBlock admitted progress.room sample position] at collected
  rw [collected]
  unfold partialResult
  dsimp only
  rw [ite_lt_succ]
  by_cases current : (geometry.data.position flat).sample = sample
  · rw [if_pos current, if_pos current, if_neg (by omega)]
    rfl
  · rw [if_neg current, if_neg current, add_zero]

theorem filterGradientBlock_eq (admitted : geometry.Admitted) (outputGradient data target : Array α)
    (sample : Nat) (row : Fin geometry.output.dims.channels) (col : Fin geometry.columnRows) :
    filterGradientBlock geometry outputGradient data target sample row col =
      filterPart geometry outputGradient data sample (geometry.tapAt row col) +
        Buffer.read geometry.filters target (geometry.tapAt row col) := by
  unfold filterGradientBlock filterPart
  rw [MatrixProduct.Exact.multiplyAdd_eq, one_mul, one_mul, ← Fin.sum_univ_eq_sum_range,
    view_filters admitted]
  refine congrArg (· + _) (Finset.sum_congr rfl fun location _ => ?_)
  rw [view_outputs]
  rfl

theorem filterGradientSample_progress (admitted : geometry.Admitted)
    {target outputGradient data : Array α}
    (fits : geometry.Fits .backwardFilter target outputGradient data) {sample : Nat}
    (inside : sample < geometry.data.dims.samples) {written : Written α}
    (progress : Progress geometry .backwardFilter target outputGradient data sample written) :
    ∃ next, filterGradientSample geometry outputGradient data written sample = some next ∧
      Progress geometry .backwardFilter target outputGradient data (sample + 1) next := by
  refine ⟨_, filterGradientSample_eq_some admitted (progress.fits fits) progress.room inside, ?_,
    by simpa using progress.room⟩
  dsimp only
  rw [overwrite_filters admitted (progress.fits fits).target
    (fun tap => filterPart geometry outputGradient data
    sample tap + Buffer.read geometry.filters written.target tap)
    (filterGradientBlock_eq admitted outputGradient data written.target sample),
    progress.target, Buffer.size_cells]
  refine Buffer.cells_congr fun flat within => ?_
  unfold Buffer.read
  rw [admitted.filters.offset_position, Buffer.cell_cells _ within]
  unfold partialResult
  dsimp only
  rw [Finset.sum_range_succ, add_comm]

/-- In exact arithmetic the lowered algorithm leaves the result of the pass, whatever its
workspace held. -/
theorem runLowered_eq_result (admitted : geometry.Admitted) {pass : Pass}
    {target first second workspace : Array α} (fits : geometry.Fits pass target first second)
    (room : geometry.columnRows * geometry.columnCols ≤ workspace.size) :
    ∃ scratch, runLowered pass geometry target workspace first second =
      ⟨.ok (), geometry.result pass target first second, some scratch⟩ := by
  have start := progress_start pass target first second room
  have matrix : ∀ storage : Array α, storage.size = geometry.filters.count →
      Buffer.fitsMatrix storage geometry.output.dims.channels geometry.columnRows = .ok () :=
    fun storage size => (Buffer.fitsMatrix_eq_ok_iff _ _ _).mpr (admitted.filters_fit size)
  unfold runLowered
  dsimp only
  cases pass with
  | forward =>
    rw [matrix second fits.second]
    exact ofWritten_overSamples admitted fits _ start fun sample inside written =>
      forwardSample_progress admitted fits inside
  | backwardData =>
    rw [matrix second fits.second]
    exact ofWritten_overSamples admitted fits _ start fun sample inside written =>
      dataGradientSample_progress admitted fits inside
  | backwardFilter =>
    rw [matrix _ ((Buffer.size_zeros _).trans fits.target)]
    exact ofWritten_overSamples admitted fits _ start fun sample inside written =>
      filterGradientSample_progress admitted fits inside

end

end TensorEngine.Conv

import TensorEngine.Proofs.Conv.Destination
import TensorEngine.Proofs.PartialSums

/-! Padding under rounded arithmetic. The direct algorithm leaves taps in the padding
out; a column matrix holds zeros for them, which take part in its products. In floats
the two differ as soon as such a zero meets a number that is not finite. -/

set_option autoImplicit false

namespace TensorEngine.Conv

variable {geometry : Geometry}

namespace Geometry

variable {α : Type}

/-- A tap reads padding at an output. -/
def Outside (geometry : Geometry) (output tap : Index) : Prop :=
  geometry.rowAxis.input? output.row tap.row = none ∨
    geometry.colAxis.input? output.col tap.col = none

instance (geometry : Geometry) (output tap : Index) : Decidable (geometry.Outside output tap) :=
  inferInstanceAs (Decidable (_ ∨ _))

/-- Filter values that face the padding at an output. -/
def facingOutput (geometry : Geometry) (filters : Index → α) (output : Index) : Multiset α :=
  ∑ tap ∈ geometry.filters.dims.positions,
    if tap.sample = output.channel then
      if geometry.Outside output tap then {filters tap} else 0
    else 0

/-- Output gradients that face the padding through a tap. -/
def facingTap (geometry : Geometry) (gradient : Index → α) (tap : Index) : Multiset α :=
  ∑ output ∈ geometry.output.dims.positions,
    if output.channel = tap.sample then
      if geometry.Outside output tap then {gradient output} else 0
    else 0

section

variable [Mul α]

/-- Products of an output, each of a tap and the data element it reads. -/
def outputProducts (geometry : Geometry) (filters data : Index → α) (output : Index) : Multiset α :=
  ∑ tap ∈ geometry.filters.dims.positions, ∑ element ∈ geometry.data.dims.positions,
    if geometry.Reads output tap element then {filters tap * data element} else 0

def elementProducts (geometry : Geometry) (filters gradient : Index → α)
    (element : Index) : Multiset α :=
  ∑ tap ∈ geometry.filters.dims.positions, ∑ output ∈ geometry.output.dims.positions,
    if geometry.Reads output tap element then {filters tap * gradient output} else 0

def tapProducts (geometry : Geometry) (gradient data : Index → α) (tap : Index) : Multiset α :=
  ∑ output ∈ geometry.output.dims.positions, ∑ element ∈ geometry.data.dims.positions,
    if geometry.Reads output tap element then {gradient output * data element} else 0

variable [Zero α]

-- A tap in the padding leaves a product with zero.
theorem singleton_mul_tapped (geometry : Geometry) (factor : α) (data : Index → α)
    (output tap : Index) :
    ({factor * geometry.tapped data output tap} : Multiset α) =
      geometry.tapped (fun element => {factor * data element}) output tap +
        (if geometry.Outside output tap then {factor} else 0 : Multiset α).map (· * 0) := by
  unfold tapped Outside
  rcases Option.eq_none_or_eq_some (geometry.rowAxis.input? output.row tap.row)
    with rowNone | ⟨row, rowFound⟩
  · simp [rowNone]
  · rcases Option.eq_none_or_eq_some (geometry.colAxis.input? output.col tap.col)
      with colNone | ⟨col, colFound⟩
    · simp [rowFound, colNone]
    · simp [rowFound, colFound]

variable (filters data gradient : Index → α) (admitted : geometry.Admitted)

include admitted

/-- A row of filters times a column: the products of the output, and what faces the
padding times zero. -/
theorem Admitted.products_columns {output : Index} (within : output.Within geometry.output.dims) :
    ∑ row ∈ Finset.range geometry.columnRows, ({filters (geometry.tapAt output.channel row) *
        geometry.tapped data output (geometry.tapAt output.channel row)} : Multiset α) =
      geometry.outputProducts filters data output +
        (geometry.facingOutput filters output).map (· * 0) := by
  have filter : output.channel < geometry.filters.dims.samples :=
    Nat.lt_of_lt_of_eq within.2.1 admitted.output_channels
  unfold outputProducts facingOutput
  rw [geometry.sum_columnRows output.channel fun tap =>
      ({filters tap * geometry.tapped data output tap} : Multiset α),
    admitted.sum_reads_of_output within fun tap element => {filters tap * data element},
    Shape.sum_positions_sample filter, ← Multiset.coe_mapAddMonoidHom]
  simp only [map_sum, Multiset.coe_mapAddMonoidHom, singleton_mul_tapped, Finset.sum_add_distrib]

theorem Admitted.products_samples {tap : Index} (within : tap.Within geometry.filters.dims) :
    ∑ sample ∈ Finset.range geometry.data.dims.samples,
      ∑ location ∈ Finset.range geometry.columnCols,
        ({gradient (geometry.outputAt sample tap.sample location) *
          geometry.tapped data (geometry.outputAt sample tap.sample location) tap} : Multiset α) =
      geometry.tapProducts gradient data tap + (geometry.facingTap gradient tap).map (· * 0) := by
  have filter : tap.sample < geometry.output.dims.channels :=
    Nat.lt_of_lt_of_eq within.1 admitted.output_channels.symm
  unfold tapProducts facingTap
  rw [admitted.sum_reads_of_tap within fun output element => {gradient output * data element},
    Shape.sum_positions_channel filter, ← Multiset.coe_mapAddMonoidHom]
  simp only [map_sum, Multiset.coe_mapAddMonoidHom]
  rw [admitted.output_dims, ← Finset.sum_add_distrib]
  refine Finset.sum_congr rfl fun sample _ => ?_
  rw [geometry.sum_columnCols sample tap.sample fun output =>
    ({gradient output * geometry.tapped data output tap} : Multiset α), admitted.output_dims]
  simp only [singleton_mul_tapped, Finset.sum_add_distrib]

end

section

variable [Zero α]

/-- Products behind an element of a target, of operands that meet inside the data. -/
def products [Mul α] (geometry : Geometry) (pass : Pass) (first second : Array α)
    (flat : Nat) : Multiset α :=
  match pass with
  | .forward =>
    geometry.outputProducts (Buffer.read geometry.filters second) (Buffer.read geometry.data first)
      (geometry.output.position flat)
  | .backwardData =>
    geometry.elementProducts (Buffer.read geometry.filters second)
      (Buffer.read geometry.output first) (geometry.data.position flat)
  | .backwardFilter =>
    geometry.tapProducts (Buffer.read geometry.output first) (Buffer.read geometry.data second)
      (geometry.filters.position flat)

/-- Operands behind an element of a target that face the padding. The data gradient
reads nothing through the padding. -/
def facing (geometry : Geometry) (pass : Pass) (first second : Array α) (flat : Nat) : Multiset α :=
  match pass with
  | .forward =>
    geometry.facingOutput (Buffer.read geometry.filters second) (geometry.output.position flat)
  | .backwardData => 0
  | .backwardFilter =>
    geometry.facingTap (Buffer.read geometry.output first) (geometry.filters.position flat)

end

end Geometry

variable {pass : Pass}

/-- The direct algorithm adds the products of an element and nothing else. -/
theorem isFinite_directCell (admitted : geometry.Admitted) (assigns : pass ≠ .backwardData)
    {target first second : Array Float32} {flat : Nat}
    (inside : flat < (geometry.target pass).count)
    (finite : FiniteInOrders (geometry.products pass first second flat)) :
    (directCell geometry pass target first second flat).isFinite = true := by
  cases pass with
  | forward =>
    apply FiniteInOrders.foldl
    rw [admitted.sum_forwardTerms _ (geometry.output_rowMajor.position_within inside)]
    exact finite
  | backwardData => contradiction
  | backwardFilter =>
    apply FiniteInOrders.foldl
    rw [admitted.sum_filterTerms _ (admitted.filters.position_within inside)]
    exact finite

/-! The lowered algorithm, sample by sample. -/

section

variable {α : Type} [Zero α] [Add α] [Mul α] {first second : Array α}

/-- Products that one sample adds to a filter gradient, those of the padding with it. -/
def sampleProducts (geometry : Geometry) (gradient data : Array α) (sample : Nat)
    (tap : Index) : Multiset α :=
  ∑ location ∈ Finset.range geometry.columnCols,
    {Buffer.read geometry.output gradient (geometry.outputAt sample tap.sample location) *
      geometry.tapped (Buffer.read geometry.data data)
        (geometry.outputAt sample tap.sample location) tap}

/-- What an element of a target is a sum of, once some of the samples are done. -/
def Summed (geometry : Geometry) (pass : Pass) (first second : Array α) (samples flat : Nat)
    (value : α) : Prop :=
  match pass with
  | .forward => flat < samples * geometry.sampleLength →
      SumOf (geometry.products .forward first second flat +
        (geometry.facing .forward first second flat).map (· * 0)) value
  | .backwardData => True
  | .backwardFilter => SumOf (∑ sample ∈ Finset.range samples,
      sampleProducts geometry first second sample (geometry.filters.position flat)) value

structure SummedUpTo (geometry : Geometry) (pass : Pass) (first second : Array α) (samples : Nat)
    (written : Written α) : Prop where
  underway : Underway geometry pass first second written
  cells : ∀ flat < (geometry.target pass).count,
    Summed geometry pass first second samples flat (Buffer.cell written.target flat)

theorem summedUpTo_cleared {target workspace : Array α}
    (fits : geometry.Fits pass target first second)
    (room : geometry.columnRows * geometry.columnCols ≤ workspace.size) :
    SummedUpTo geometry pass first second 0 ⟨cleared pass target, workspace⟩ := by
  refine ⟨underway_cleared fits room, fun flat within => ?_⟩
  cases pass with
  | forward => exact fun impossible => absurd impossible (by omega)
  | backwardData => trivial
  | backwardFilter =>
    have zero : Buffer.cell (cleared .backwardFilter target) flat = 0 := by
      change Buffer.cell (Buffer.zeros target.size) flat = 0
      rw [Buffer.zeros_eq_cells, Buffer.cell_cells _ (fits.target.symm ▸ within)]
    change SumOf 0 _
    rw [zero]
    exact SumOf.none

variable [One α] [MatrixProduct α] [MatrixProduct.Summing α] (admitted : geometry.Admitted)

include admitted

theorem sumOf_forwardBlock (data filters target : Array α) {sample : Nat}
    (inside : sample < geometry.data.dims.samples) (row : Fin geometry.output.dims.channels)
    (col : Fin geometry.columnCols) :
    SumOf (geometry.outputProducts (Buffer.read geometry.filters filters)
      (Buffer.read geometry.data data)
        (geometry.outputAt sample row col) +
      (geometry.facingOutput (Buffer.read geometry.filters filters)
        (geometry.outputAt sample row col)).map (· * 0))
      (forwardBlock geometry data filters target sample row col) := by
  have inFilters := Nat.lt_of_lt_of_eq row.isLt admitted.output_channels
  have entry := MatrixProduct.Summing.assigned (Entries.view filters 0 geometry.output.dims.channels
    geometry.columnRows) (columnMatrix geometry data sample)
    (Entries.view target (sample * geometry.sampleLength) _ _) row col
  rw [← admitted.products_columns _ _ (admitted.outputAt_within inside inFilters col.isLt),
    ← Fin.sum_univ_eq_sum_range]
  simp only [view_filters admitted] at entry
  exact entry

theorem sumOf_filterGradientBlock (gradient data target : Array α) (sample : Nat)
    (row : Fin geometry.output.dims.channels) (col : Fin geometry.columnRows) :
    SumOf ({Buffer.read geometry.filters target (geometry.tapAt row col)} +
        sampleProducts geometry gradient data sample (geometry.tapAt row col))
      (filterGradientBlock geometry gradient data target sample row col) := by
  have entry := MatrixProduct.Summing.added (Entries.view gradient (sample * geometry.sampleLength)
    geometry.output.dims.channels geometry.columnCols)
      (Entries.transpose (columnMatrix geometry data sample))
    (Entries.view target 0 _ _) row col
  unfold sampleProducts
  rw [← Fin.sum_univ_eq_sum_range]
  simp only [view_filters admitted, view_outputs] at entry
  exact entry

theorem SummedUpTo.forwardSample {sample : Nat} (inside : sample < geometry.data.dims.samples)
    {written : Written α} (summed : SummedUpTo geometry .forward first second sample written) :
    ∃ next, Conv.forwardSample geometry first second written sample = some next ∧
      SummedUpTo geometry .forward first second (sample + 1) next := by
  obtain ⟨underway, cells⟩ := summed
  refine ⟨_, forwardSample_eq_some admitted underway.fits underway.room inside,
    underway.of_sizes (Buffer.size_overwrite ..) (Buffer.size_overwrite ..),
      fun flat within below => ?_⟩
  dsimp only
  rw [Buffer.cell_overwrite _ (underway.fits.target.symm ▸ within), Entries.size_toStorage]
  split
  · rename_i block
    obtain ⟨place, rfl⟩ := Nat.exists_eq_add_of_le block.1
    have inBlock := Nat.lt_of_add_lt_add_left block.2
    obtain ⟨row, col, atRow, atCol, value⟩ := Entries.cell_toStorage
      (forwardBlock geometry first second written.target sample) inBlock
    have position := admitted.position_output inside inBlock
    rw [← atRow, ← atCol] at position
    rw [Nat.add_sub_cancel_left, value]
    unfold Geometry.products Geometry.facing
    dsimp only
    rw [position]
    exact sumOf_forwardBlock admitted first second written.target inside row col
  · rename_i outside
    rw [← geometry.sampleLength_eq, ← Nat.succ_mul] at outside
    exact cells flat within (Nat.lt_of_not_le fun after => outside ⟨after, below⟩)

theorem SummedUpTo.filterGradientSample {sample : Nat}
    (inside : sample < geometry.data.dims.samples) {written : Written α}
    (summed : SummedUpTo geometry .backwardFilter first second sample written) :
    ∃ next, Conv.filterGradientSample geometry first second written sample = some next ∧
      SummedUpTo geometry .backwardFilter first second (sample + 1) next := by
  obtain ⟨underway, cells⟩ := summed
  refine ⟨_, filterGradientSample_eq_some admitted underway.fits underway.room inside,
    underway.of_sizes (Buffer.size_overwrite ..) (Buffer.size_overwrite ..), fun flat within => ?_⟩
  have inBlock : flat < geometry.output.dims.channels * geometry.columnRows :=
    Nat.lt_of_lt_of_eq within admitted.filters_count
  obtain ⟨row, col, atRow, atCol, value⟩ := Entries.cell_toStorage
    (filterGradientBlock geometry first second written.target sample) inBlock
  have position := admitted.position_filter inBlock
  rw [← atRow, ← atCol] at position
  have entry := sumOf_filterGradientBlock admitted first second written.target sample row col
  rw [← position] at entry
  have before : Buffer.read geometry.filters written.target (geometry.filters.position flat) =
      Buffer.cell written.target flat := by
    unfold Buffer.read
    rw [admitted.filters.offset_position]
  rw [before] at entry
  dsimp only
  rw [Buffer.cell_overwrite _ (underway.fits.target.symm ▸ within), Entries.size_toStorage,
    if_pos ⟨Nat.zero_le _, by omega⟩, Nat.sub_zero, value]
  unfold Summed
  dsimp only
  rw [Finset.sum_range_succ]
  exact entry.substitute (cells flat within)

/-- An element that the lowered algorithm leaves is a sum of its products and of what
faces the padding, times zero. -/
theorem sumOf_runLowered (assigns : pass ≠ .backwardData) {target workspace : Array α}
    (fits : geometry.Fits pass target first second)
    (room : geometry.columnRows * geometry.columnCols ≤ workspace.size) {flat : Nat}
    (inside : flat < (geometry.target pass).count) :
    SumOf (geometry.products pass first second flat +
        (geometry.facing pass first second flat).map (· * 0))
      (Buffer.cell (runLowered pass geometry target workspace first second).target flat) := by
  have start := summedUpTo_cleared fits room
  rw [runLowered_eq admitted fits]
  cases pass with
  | forward =>
    obtain ⟨last, ran, summed⟩ :=
      overSamples_of_invariant (SummedUpTo geometry .forward first second) start
      fun sample within _ held => held.forwardSample admitted within
    change SumOf _ (Buffer.cell (Run.ofWritten _
      (overSamples geometry (forwardSample geometry first second) _)).target flat)
    rw [ran]
    exact summed.cells flat inside (Nat.lt_of_lt_of_eq inside admitted.output_count)
  | backwardData => contradiction
  | backwardFilter =>
    obtain ⟨last, ran, summed⟩ :=
      overSamples_of_invariant (SummedUpTo geometry .backwardFilter first second) start
      fun sample within _ held => held.filterGradientSample admitted within
    change SumOf _ (Buffer.cell (Run.ofWritten _
      (overSamples geometry (filterGradientSample geometry first second) _)).target flat)
    rw [ran]
    unfold Geometry.products Geometry.facing
    dsimp only
    rw [← admitted.products_samples _ _ (admitted.filters.position_within inside)]
    exact summed.cells flat inside

end

/-- On an accepted geometry both algorithms answer. Where the products of an element and
their partial sums are finite in every order, so is what the direct algorithm leaves there,
whatever faces the padding. A matrix product may also group its terms: where all sums are
finite however the products are ordered and grouped, what the lowered algorithm leaves is
finite exactly if all operands that face the padding are finite as well. -/
theorem padding_reaches_lowered_results [MatrixProduct Float32] [MatrixProduct.Summing Float32]
    {data filters : Shape} {stride : Nat × Nat}
    (accepted : Geometry.ofLayouts (.ofShape data) (.ofShape filters) stride = .ok geometry)
    (assigns : pass ≠ .backwardData) {target first second scratch : Array Float32}
    (unused : Option (Array Float32)) (fits : geometry.Fits pass target first second)
    (room : geometry.columnRows * geometry.columnCols ≤ scratch.size) {flat : Nat}
    (inside : flat < target.size) :
    let direct := run pass .direct geometry unused target first second
    let lowered := run pass .lowered geometry (some scratch) target first second
    let products := geometry.products pass first second flat
    direct.answer = .ok () ∧ lowered.answer = .ok () ∧
      (FiniteInOrders products → (Buffer.cell direct.target flat).isFinite = true) ∧
      (FiniteInGroupings products →
        ((Buffer.cell lowered.target flat).isFinite = true ↔
          ∀ operand ∈ geometry.facing pass first second flat, operand.isFinite = true)) := by
  intro direct lowered products
  have admitted := Geometry.admitted_of_ofLayouts accepted
  have within : flat < (geometry.target pass).count := fits.target ▸ inside
  have directRun : direct = ⟨.ok (),
      Buffer.cells target.size (directCell geometry pass target first second), unused⟩ := by
    change Run.ofTarget unused target (runDirect pass geometry target first second) = _
    rw [runDirect_eq_some admitted fits]
    rfl
  refine ⟨?_, ?_, ?_, ?_⟩
  · rw [directRun]
  · exact (run_answers admitted fits fun _ => ⟨scratch, rfl, room⟩).1
  · intro finite
    rw [directRun, Buffer.cell_cells _ inside]
    exact isFinite_directCell admitted assigns within finite
  · intro finite
    exact (sumOf_runLowered admitted assigns fits room within).isFinite_iff finite

-- One output gradient is infinite and faces the padding through the first tap; the
-- other meets the data there.
theorem padding_reaches_lowered_results_infinite :
    let geometry : Geometry := ⟨.ofShape ⟨1, 1, 1, 2⟩, .ofShape ⟨1, 1, 1, 3⟩, (1, 1)⟩
    let gradient : Array Float32 := #[1 / 0, 1]
    let data : Array Float32 := #[2, 3]
    let direct := run .backwardFilter .direct geometry none #[7, 7, 7] gradient data
    let lowered :=
      run .backwardFilter .lowered geometry (some (Buffer.zeros 6)) #[7, 7, 7] gradient data
    geometry.products .backwardFilter gradient data 0 = {2} ∧ direct.answer = .ok () ∧
      lowered.answer = .ok () ∧
      (Buffer.cell direct.target 0).isFinite = true ∧
        ¬ (Buffer.cell lowered.target 0).isFinite = true := by
  intro geometry gradient data direct lowered
  have accepted : Geometry.ofLayouts (.ofShape ⟨1, 1, 1, 2⟩) (.ofShape ⟨1, 1, 1, 3⟩) (1, 1) =
      .ok geometry := rfl
  have fits : geometry.Fits .backwardFilter #[7, 7, 7] gradient data := ⟨rfl, by decide, rfl⟩
  have room : geometry.columnRows * geometry.columnCols ≤
      (Buffer.zeros 6 : Array Float32).size := by decide
  have products : geometry.products .backwardFilter gradient data 0 = {2} := by decide +kernel
  have facing : 1 / 0 ∈ geometry.facing .backwardFilter gradient data 0 := by decide +kernel
  have finite : FiniteInGroupings (geometry.products .backwardFilter gradient data 0) :=
    products ▸ finiteInGroupings_singleton (by decide)
  obtain ⟨directAnswer, loweredAnswer, directFinite, loweredFinite⟩ :=
    padding_reaches_lowered_results accepted
    (by decide) none fits room (by decide : 0 < (#[7, 7, 7] : Array Float32).size)
  refine ⟨products, directAnswer, loweredAnswer, directFinite finite.inOrders, fun result => ?_⟩
  have infinite : ¬ (1 / 0 : Float32).isFinite = true := by decide
  exact infinite ((loweredFinite finite).mp result _ facing)

/-- A tap in the padding that holds an infinity turns an output from 2 into no number
at all, as soon as a workspace is at hand for the lowered algorithm. -/
theorem padding_contaminates_lowered_output :
    let geometry : Geometry := ⟨.ofShape ⟨1, 1, 1, 1⟩, .ofShape ⟨1, 1, 3, 3⟩, (1, 1)⟩
    let filters : Array Float32 := #[1 / 0, 0, 0, 0, 1, 0, 0, 0, 0]
    Geometry.ofLayouts (.ofShape ⟨1, 1, 1, 1⟩) (.ofShape ⟨1, 1, 3, 3⟩) (1, 1) = .ok geometry ∧
      FiniteInGroupings (geometry.products .forward #[2] filters 0) ∧
      FiniteInOrders (geometry.products .forward #[2] filters 0) ∧
      Buffer.cell (run .forward .direct geometry none #[0] #[2] filters).target 0 = 2 ∧
      (Buffer.cell (run .forward .lowered geometry (some (Buffer.zeros 9)) #[0] #[2] filters).target
        0).isNaN =
        true := by
  intro geometry filters
  have products : geometry.products .forward #[2] filters 0 = {2} := by decide +kernel
  have finite : FiniteInGroupings (geometry.products .forward #[2] filters 0) :=
    products ▸ finiteInGroupings_singleton (by decide)
  exact ⟨rfl, finite, finite.inOrders, by decide +kernel, by decide +kernel⟩

end TensorEngine.Conv

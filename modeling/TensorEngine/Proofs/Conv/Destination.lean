import TensorEngine.Proofs.Conv.Equivalence

/-! What a pass makes of its destination. With operands that fit every pass answers,
whatever the scalars are. The forward and the filter pass assign: previous contents
cannot be told from the result. The data pass adds: in exact arithmetic it moves every
element by an amount that does not depend on what was there. -/

set_option autoImplicit false

namespace TensorEngine.Conv

variable {α : Type} {geometry : Geometry} {pass : Pass} {first second : Array α}

/-- Operands that fit, and room for a column matrix: what every sample needs and leaves. -/
structure Underway (geometry : Geometry) (pass : Pass) (first second : Array α)
    (written : Written α) : Prop where
  fits : geometry.Fits pass written.target first second
  room : geometry.columnRows * geometry.columnCols ≤ written.workspace.size

theorem Underway.of_sizes {written next : Written α}
    (underway : Underway geometry pass first second written)
    (target : next.target.size = written.target.size)
    (workspace : next.workspace.size = written.workspace.size) :
    Underway geometry pass first second next :=
  ⟨⟨target.trans underway.fits.target, underway.fits.first, underway.fits.second⟩,
    workspace.symm ▸ underway.room⟩

theorem overSamples_of_relation {step : Written α → Nat → Option (Written α)}
    {one other : Written α} (relation : Nat → Written α → Written α → Prop)
    (begins : relation 0 one other)
    (steps : ∀ sample < geometry.data.dims.samples, ∀ left right, relation sample left right →
      ∃ next rest, step left sample = some next ∧ step right sample = some rest ∧
        relation (sample + 1) next rest) :
    ∃ last rest, overSamples geometry step one = some last ∧
      overSamples geometry step other = some rest ∧
      relation geometry.data.dims.samples last rest := by
  -- The second run is carried along in the invariant of the first.
  obtain ⟨last, ran, rest, otherRan, related⟩ := overSamples_of_invariant 
    (fun sample written => ∃ rest, (List.range sample).foldlM step other = some rest ∧
      relation sample written rest)
    ⟨other, rfl, begins⟩ fun sample inside written ⟨rest, before, related⟩ => by
      obtain ⟨next, after, stepped, otherStepped, relatedAfter⟩ :=
        steps sample inside written rest related
      refine ⟨next, stepped, after, ?_, relatedAfter⟩
      rw [List.range_succ, List.foldlM_append, before]
      simp [otherStepped]
  exact ⟨last, rest, ran, otherRan, related⟩

-- Where the samples begin: only the filter pass clears its destination.
def cleared [Zero α] (pass : Pass) (target : Array α) : Array α :=
  if pass = .backwardFilter then Buffer.zeros target.size else target

@[simp] theorem size_cleared [Zero α] (pass : Pass) (target : Array α) :
    (cleared pass target).size = target.size := by
  unfold cleared
  split
  · exact Buffer.size_zeros _
  · rfl

theorem underway_cleared [Zero α] {target workspace : Array α}
    (fits : geometry.Fits pass target first second)
    (room : geometry.columnRows * geometry.columnCols ≤ workspace.size) :
    Underway geometry pass first second ⟨cleared pass target, workspace⟩ :=
  ⟨⟨(size_cleared pass target).trans fits.target, fits.first, fits.second⟩, room⟩

theorem room_of_fillWorkspace {workspace columns filled : Array α}
    (ran : fillWorkspace geometry workspace columns = some filled) :
    geometry.columnRows * geometry.columnCols ≤ workspace.size := by
  unfold fillWorkspace at ran
  split at ran
  · assumption
  · cases ran

section

variable [Zero α] [One α] [Add α] [MatrixProduct α]

def sampleStep (pass : Pass) (geometry : Geometry) (first second : Array α) :
    Written α → Nat → Option (Written α) :=
  match pass with
  | .forward => forwardSample geometry first second
  | .backwardData => dataGradientSample geometry first second
  | .backwardFilter => filterGradientSample geometry first second

theorem Underway.sampleStep (admitted : geometry.Admitted) {written : Written α}
    (underway : Underway geometry pass first second written) {sample : Nat}
    (inside : sample < geometry.data.dims.samples) :
    ∃ next, Conv.sampleStep pass geometry first second written sample = some next ∧
      Underway geometry pass first second next := by
  cases pass with
  | forward =>
    exact ⟨_, forwardSample_eq_some admitted underway.fits underway.room inside,
      underway.of_sizes (Buffer.size_overwrite ..) (Buffer.size_overwrite ..)⟩
  | backwardData =>
    exact ⟨_, dataGradientSample_eq_some admitted underway.fits underway.room inside rfl,
      underway.of_sizes (Buffer.size_cells ..) (Buffer.size_overwrite ..)⟩
  | backwardFilter =>
    exact ⟨_, filterGradientSample_eq_some admitted underway.fits underway.room inside,
      underway.of_sizes (Buffer.size_overwrite ..) (Buffer.size_overwrite ..)⟩

theorem overSamples_answers (admitted : geometry.Admitted) {start : Written α}
    (underway : Underway geometry pass first second start) :
    ∃ last, overSamples geometry (sampleStep pass geometry first second) start = some last ∧
      Underway geometry pass first second last :=
  overSamples_of_invariant (fun _ => Underway geometry pass first second) underway
    fun _ inside _ held => held.sampleStep admitted inside

theorem room_of_sampleStep {written next : Written α} {sample : Nat}
    (ran : sampleStep pass geometry first second written sample = some next) :
    geometry.columnRows * geometry.columnCols ≤ written.workspace.size := by
  unfold sampleStep forwardSample dataGradientSample filterGradientSample at ran
  cases pass with
  | forward =>
    simp only [Option.bind_eq_bind, Option.bind_eq_some_iff] at ran
    obtain ⟨_, _, _, filled, _⟩ := ran
    exact room_of_fillWorkspace filled
  | backwardData =>
    simp only [Option.bind_eq_bind, Option.bind_eq_some_iff] at ran
    obtain ⟨_, _, _, _, _, _, _, _, _, filled, _⟩ := ran
    exact room_of_fillWorkspace filled
  | backwardFilter =>
    simp only [Option.bind_eq_bind, Option.bind_eq_some_iff] at ran
    obtain ⟨_, _, _, filled, _⟩ := ran
    exact room_of_fillWorkspace filled

variable {target workspace : Array α}

theorem runLowered_eq (admitted : geometry.Admitted)
    (fits : geometry.Fits pass target first second) :
    runLowered pass geometry target workspace first second = .ofWritten ⟨target, workspace⟩
      (overSamples geometry (sampleStep pass geometry first second)
        ⟨cleared pass target, workspace⟩) := by
  have matrix : ∀ storage : Array α, storage.size = geometry.filters.count →
      Buffer.fitsMatrix storage geometry.output.dims.channels geometry.columnRows = .ok () :=
    fun storage size => (Buffer.fitsMatrix_eq_ok_iff _ _ _).mpr (admitted.filters_fit size)
  unfold runLowered
  dsimp only
  cases pass with
  | forward =>
    rw [matrix second fits.second]
    rfl
  | backwardData =>
    rw [matrix second fits.second]
    rfl
  | backwardFilter =>
    rw [matrix _ ((Buffer.size_zeros _).trans fits.target)]
    rfl

variable [Mul α] {algorithm : Algorithm} {scratch : Option (Array α)}

/-- A pass with operands that fit answers and keeps the length of its destination. -/
theorem run_answers (admitted : geometry.Admitted) (fits : geometry.Fits pass target first second)
    (served : algorithm.Served geometry scratch) :
    (run pass algorithm geometry scratch target first second).answer = .ok () ∧
      (run pass algorithm geometry scratch target first second).target.size = target.size := by
  unfold run
  cases algorithm with
  | direct =>
    dsimp only
    rw [runDirect_eq_some admitted fits]
    exact ⟨rfl, Buffer.size_cells ..⟩
  | lowered =>
    obtain ⟨workspace, rfl, room⟩ := served rfl
    obtain ⟨last, ran, underway⟩ := overSamples_answers admitted (underway_cleared fits room)
    dsimp only
    rw [runLowered_eq admitted fits, ran]
    exact ⟨rfl, underway.fits.target.trans fits.target.symm⟩

/-- A pass that answers has had the workspace that it needs: there is a first sample. -/
theorem served_of_run (admitted : geometry.Admitted)
    (fits : geometry.Fits pass target first second)
    (answered : (run pass algorithm geometry scratch target first second).answer = .ok ()) :
    algorithm.Served geometry scratch := by
  rintro rfl
  unfold run at answered
  cases scratch with
  | none => cases answered
  | some workspace =>
    refine ⟨workspace, rfl, ?_⟩
    dsimp only at answered
    rw [runLowered_eq admitted fits] at answered
    obtain ⟨samples, -, -, -⟩ := Shape.pos_of_count admitted.dataHolds
    obtain ⟨others, some⟩ := Nat.exists_eq_succ_of_ne_zero samples.ne'
    cases ran : overSamples geometry (sampleStep pass geometry first second)
        ⟨cleared pass target, workspace⟩ with
    | none =>
      rw [ran] at answered
      cases answered
    | some last =>
      unfold overSamples at ran
      rw [some, List.range_succ_eq_map, List.foldlM_cons] at ran
      obtain ⟨next, began, -⟩ := Option.bind_eq_some_iff.mp ran
      exact room_of_sampleStep began

end

/-! Passes that assign. -/

/-- Two forward runs agree on the samples that are done, and share their workspace. -/
structure AgreeBelow [Zero α] (geometry : Geometry) (first second : Array α) (samples : Nat)
    (one other : Written α) :
    Prop where
  underway : Underway geometry .forward first second one
  otherUnderway : Underway geometry .forward first second other
  workspace : one.workspace = other.workspace
  cells : ∀ flat < samples * geometry.sampleLength,
    Buffer.cell one.target flat = Buffer.cell other.target flat

theorem AgreeBelow.target_eq [Zero α] (admitted : geometry.Admitted) {one other : Written α}
    (agree : AgreeBelow geometry first second geometry.data.dims.samples one other) :
    one.target = other.target := by
  have size := agree.underway.fits.target
  refine Buffer.eq_of_cells (size.trans agree.otherUnderway.fits.target.symm) fun flat inside => ?_
  rw [size] at inside
  exact agree.cells flat (admitted.output_count ▸ inside)

section

variable [Zero α] [One α] [MatrixProduct α]

theorem forwardBlock_congr [MatrixProduct.Assigning α] (data filters target other : Array α)
    (sample : Nat) :
    forwardBlock geometry data filters target sample =
      forwardBlock geometry data filters other sample :=
  MatrixProduct.Assigning.multiplyAdd_zero ..

theorem AgreeBelow.forwardSample [Add α] [MatrixProduct.Assigning α] (admitted : geometry.Admitted)
    {sample : Nat} (inside : sample < geometry.data.dims.samples) {one other : Written α}
    (agree : AgreeBelow geometry first second sample one other) :
    ∃ next rest, Conv.forwardSample geometry first second one sample = some next ∧
      Conv.forwardSample geometry first second other sample = some rest ∧
        AgreeBelow geometry first second (sample + 1) next rest := by
  obtain ⟨underway, otherUnderway, workspace, cells⟩ := agree
  refine ⟨_, _, forwardSample_eq_some admitted underway.fits underway.room inside,
    forwardSample_eq_some admitted otherUnderway.fits otherUnderway.room inside,
    underway.of_sizes (Buffer.size_overwrite ..) (Buffer.size_overwrite ..),
    otherUnderway.of_sizes (Buffer.size_overwrite ..) (Buffer.size_overwrite ..),
      by rw [workspace], ?_⟩
  intro flat below
  dsimp only
  have reach : (sample + 1) * geometry.sampleLength ≤ geometry.output.count := by
    rw [admitted.output_count]
    exact Nat.mul_le_mul_right _ inside
  have within := Nat.lt_of_lt_of_le below reach
  rw [forwardBlock_congr first second one.target other.target,
    Buffer.cell_overwrite _ (underway.fits.target.symm ▸ within),
    Buffer.cell_overwrite _ (otherUnderway.fits.target.symm ▸ within)]
  -- The block of this sample is one and the same; before it the runs agreed already.
  split
  · rfl
  · rename_i outside
    rw [Entries.size_toStorage, ← geometry.sampleLength_eq, ← Nat.succ_mul] at outside
    exact cells flat (Nat.lt_of_not_le fun after => outside ⟨after, below⟩)

variable [Add α] [Mul α] [MatrixProduct.Assigning α]

/-- A pass other than the data pass leaves one result, whatever its destination held. -/
theorem run_assigns (admitted : geometry.Admitted) (assigns : pass ≠ .backwardData)
    {target other : Array α} (fits : geometry.Fits pass target first second)
    (otherFits : geometry.Fits pass other first second) {algorithm : Algorithm}
    {scratch : Option (Array α)} (served : algorithm.Served geometry scratch) :
    (run pass algorithm geometry scratch target first second).target =
      (run pass algorithm geometry scratch other first second).target := by
  have size : target.size = other.size := fits.target.trans otherFits.target.symm
  unfold run
  cases algorithm with
  | direct =>
    dsimp only
    rw [runDirect_eq_some admitted fits, runDirect_eq_some admitted otherFits, size]
    cases pass with
    | forward => rfl
    | backwardData => contradiction
    | backwardFilter => rfl
  | lowered =>
    obtain ⟨workspace, rfl, room⟩ := served rfl
    dsimp only
    rw [runLowered_eq admitted fits, runLowered_eq admitted otherFits]
    cases pass with
    | forward =>
      obtain ⟨last, rest, ran, otherRan, agree⟩ := overSamples_of_relation 
        (AgreeBelow geometry first second)
        ⟨underway_cleared fits room, underway_cleared otherFits room, rfl,
          fun flat none => by omega⟩
        fun sample inside _ _ agree => agree.forwardSample admitted inside
      change (Run.ofWritten _
        (overSamples geometry (forwardSample geometry first second) _)).target =
        (Run.ofWritten _ (overSamples geometry (forwardSample geometry first second) _)).target
      rw [ran, otherRan]
      exact agree.target_eq admitted
    | backwardData => contradiction
    | backwardFilter =>
      obtain ⟨last, ran, -⟩ := overSamples_answers admitted (underway_cleared fits room)
      have start : cleared .backwardFilter other = cleared .backwardFilter target :=
        congrArg Buffer.zeros size.symm
      rw [start, ran]
      rfl

end

/-! The pass that adds. -/

section

variable [AddCommGroup α] [One α] [MatrixProduct α]

/-- Two data runs have added the same, and share their workspace. -/
structure AddAlike (geometry : Geometry) (first second target otherTarget : Array α)
    (one other : Written α) :
    Prop where
  underway : Underway geometry .backwardData first second one
  otherUnderway : Underway geometry .backwardData first second other
  workspace : one.workspace = other.workspace
  increments : ∀ flat < geometry.data.count,
    Buffer.increment target one.target flat = Buffer.increment otherTarget other.target flat

theorem AddAlike.dataGradientSample (admitted : geometry.Admitted) {target otherTarget : Array α}
    {sample : Nat} (inside : sample < geometry.data.dims.samples) {one other : Written α}
    (alike : AddAlike geometry first second target otherTarget one other) :
    ∃ next rest, Conv.dataGradientSample geometry first second one sample = some next ∧
      Conv.dataGradientSample geometry first second other sample = some rest ∧
        AddAlike geometry first second target otherTarget next rest := by
  obtain ⟨underway, otherUnderway, workspace, same⟩ := alike
  refine ⟨_, _, dataGradientSample_eq_some admitted underway.fits underway.room inside rfl,
    dataGradientSample_eq_some admitted otherUnderway.fits otherUnderway.room inside rfl,
    underway.of_sizes (Buffer.size_cells ..) (Buffer.size_overwrite ..),
    otherUnderway.of_sizes (Buffer.size_cells ..) (Buffer.size_overwrite ..), by rw [workspace], ?_⟩
  intro flat within
  have before := same flat within
  unfold Buffer.increment at before ⊢
  dsimp only
  rw [Buffer.cell_cells _ (underway.fits.target.symm ▸ within),
    Buffer.cell_cells _ (otherUnderway.fits.target.symm ▸ within), Buffer.collected_eq_sum,
    Buffer.collected_eq_sum, workspace, add_sub_right_comm, before, ← add_sub_right_comm]

variable [Mul α]

/-- In exact arithmetic the data pass adds one and the same to whatever is there. -/
theorem run_adds (admitted : geometry.Admitted) {target other : Array α}
    (fits : geometry.Fits .backwardData target first second)
    (otherFits : geometry.Fits .backwardData other first second) {algorithm : Algorithm}
    {scratch : Option (Array α)} (served : algorithm.Served geometry scratch) {flat : Nat}
    (inside : flat < geometry.data.count) :
    Buffer.increment target
      (run .backwardData algorithm geometry scratch target first second).target flat =
      Buffer.increment other
        (run .backwardData algorithm geometry scratch other first second).target flat := by
  unfold run
  cases algorithm with
  | direct =>
    dsimp only
    rw [runDirect_eq_some admitted fits, runDirect_eq_some admitted otherFits]
    let share :=
      fun flat => Buffer.sumAlong second first (geometry.dataTerms (geometry.data.position flat))
    exact (Buffer.increment_cells share (fits.target.symm ▸ inside)).trans
      (Buffer.increment_cells share (otherFits.target.symm ▸ inside)).symm
  | lowered =>
    obtain ⟨workspace, rfl, room⟩ := served rfl
    obtain ⟨last, rest, ran, otherRan, alike⟩ := overSamples_of_relation 
      (fun _ => AddAlike geometry first second target other)
      ⟨underway_cleared fits room, underway_cleared otherFits room, rfl,
        fun _ _ => (sub_self _).trans (sub_self _).symm⟩
      fun sample within _ _ alike => alike.dataGradientSample admitted within
    dsimp only
    rw [runLowered_eq admitted fits, runLowered_eq admitted otherFits]
    change Buffer.increment target
      (Run.ofWritten _ (overSamples geometry (dataGradientSample geometry first second)
      _)).target flat = Buffer.increment other (Run.ofWritten _ (overSamples geometry
        (dataGradientSample geometry first second) _)).target flat
    rw [ran, otherRan]
    exact alike.increments flat inside

end

end TensorEngine.Conv

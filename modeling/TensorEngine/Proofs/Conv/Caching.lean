import TensorEngine.Proofs.Conv.History
import TensorEngine.Proofs.Conv.Workspace

/-! Caching of plans and workspaces cannot be seen. An operator that any history has left
configured works like a new one on which only the last setup of that history was run. -/

set_option autoImplicit false

namespace TensorEngine

open TensorEngine.Conv

variable {α : Type}

namespace Conv

variable {counting : Counting} {preference : Preference} {plan other : Plan α}

theorem Plan.Keyed.geometry_congr (keyed : plan.Keyed) (otherKeyed : other.Keyed)
    (key : plan.key = other.key) : plan.geometry = other.geometry := by
  unfold Keyed at keyed otherKeyed
  rw [key, otherKeyed] at keyed
  exact (Except.ok.inj keyed).symm

-- Counting never makes more of a size than it is.
theorem PassPlan.Derived.workspace_le {pass : Pass} {geometry : Geometry} {cap : Nat}
    {plan : PassPlan α} (derived : plan.Derived counting pass geometry cap) :
    ∀ scratch ∈ plan.workspace, scratch.size ≤ geometry.columnRows * geometry.columnCols := by
  intro scratch held
  have size := derived.workspace
  rw [held, Option.map_some] at size
  dsimp only at size
  split at size
  · rw [Option.some.inj size]
    cases plan.algorithm with
    | direct => exact Nat.zero_le _
    | lowered => exact counting.count_le _
  · cases size

end Conv

namespace Heap

/-- The same answer, the same tensors and the same events; operators are not compared. -/
structure SameCall (one other : Outcome (Operator α × Heap α) (Event α) Unit) : Prop where
  answer : one.answer = other.answer
  tensors : one.state.2 = other.state.2
  events : one.events = other.events

section

variable (heap : Heap α) {used fresh : Operator α} {plan other : Plan α}
  (planned : used.plan = some plan) (otherPlanned : fresh.plan = some other)
  (key : plan.key = other.key)

include planned otherPlanned key

-- Checks look at the key and the geometry of a plan only, so they refuse alike.
theorem checkForward_congr (output data filters : Handle) :
    heap.checkForward fresh output data filters =
      (fun _ => other) <$> heap.checkForward used output data filters := by
  have found : used.planFor .forward = pure plan := Operator.planFor_eq_ok_iff.mpr planned
  have otherFound : fresh.planFor .forward = pure other :=
    Operator.planFor_eq_ok_iff.mpr otherPlanned
  unfold checkForward
  simp only [found, otherFound, key, pure_bind, map_bind, map_pure]

variable (geometry : plan.geometry = other.geometry)

include geometry

theorem checkDataGradient_congr (outputGradient filters dataGradient : Handle) :
    heap.checkDataGradient fresh outputGradient filters dataGradient =
      (fun _ => other) <$> heap.checkDataGradient used outputGradient filters dataGradient := by
  have found : used.planFor .backwardData = pure plan := Operator.planFor_eq_ok_iff.mpr planned
  have otherFound : fresh.planFor .backwardData = pure other :=
    Operator.planFor_eq_ok_iff.mpr otherPlanned
  unfold checkDataGradient
  simp only [found, otherFound, key, geometry, pure_bind, map_bind, map_pure]

theorem checkFilterGradient_congr (outputGradient data filterGradient : Handle) :
    heap.checkFilterGradient fresh outputGradient data filterGradient =
      (fun _ => other) <$> heap.checkFilterGradient used outputGradient data filterGradient := by
  have found : used.planFor .backwardFilter = pure plan := Operator.planFor_eq_ok_iff.mpr planned
  have otherFound : fresh.planFor .backwardFilter = pure other :=
    Operator.planFor_eq_ok_iff.mpr otherPlanned
  unfold checkFilterGradient
  simp only [found, otherFound, key, geometry, pure_bind, map_bind, map_pure]

end

variable [Zero α] [One α] [Add α] [Mul α] [MatrixProduct α] [MatrixProduct.Assigning α]
  {used fresh : Operator α} {plan other : Plan α} {counting : Counting} {preference : Preference}

variable (used fresh) in
theorem convolve_congr (heap : Heap α) (derived : plan.Derived counting preference)
    (otherDerived : other.Derived counting preference) (key : plan.key = other.key) (pass : Pass)
    (target first second : Handle) :
    SameCall (heap.convolve used plan pass target first second)
      (heap.convolve fresh other pass target first second) := by
  have geometry := derived.keyed.geometry_congr otherDerived.keyed key
  have here := derived.passes pass
  have there := otherDerived.passes pass
  rw [← geometry] at there
  have algorithm : (plan.passes.get pass).algorithm = (other.passes.get pass).algorithm :=
    here.algorithm.trans there.algorithm.symm
  have same : (plan.passes.get pass).workspace.map Array.size =
      (other.passes.get pass).workspace.map Array.size := by
    rw [here.workspace, there.workspace, algorithm]
  obtain ⟨answer, result⟩ := run_congr pass (plan.passes.get pass).algorithm same here.workspace_le
    (heap.data target) (heap.data first) (heap.data second)
  unfold convolve
  split
  · exact ⟨rfl, rfl, rfl⟩
  · dsimp only
    rw [← geometry, ← algorithm]
    exact ⟨answer, congrArg (heap.store target) result, rfl⟩

variable (heap : Heap α) (planned : used.plan = some plan)
  (derived : plan.Derived counting preference) (otherPlanned : fresh.plan = some other)
  (otherDerived : other.Derived counting preference) (key : plan.key = other.key)

include planned derived otherPlanned otherDerived key

theorem convolveForward_congr (output data filters : Handle) :
    SameCall (heap.convolveForward used output data filters)
      (heap.convolveForward fresh output data filters) := by
  have geometry := derived.keyed.geometry_congr otherDerived.keyed key
  have checks := heap.checkForward_congr planned otherPlanned key output data filters
  unfold convolveForward
  rw [checks]
  cases checked : heap.checkForward used output data filters with
  | error error => exact ⟨rfl, rfl, rfl⟩
  | ok held =>
    cases planned.symm.trans (checkForward_eq_ok_iff.mp checked).1
    dsimp only [Functor.map, Except.map]
    rw [Outcome.andThen_of_ok _ rfl, Outcome.andThen_of_ok _ rfl, ← geometry]
    obtain ⟨answer, tensors, events⟩ :=
      (heap.setSize output plan.geometry.output.dims).state.convolve_congr used fresh
      derived otherDerived key .forward output data filters
    exact ⟨answer, tensors, congrArg (_ ++ ·) events⟩

theorem addDataGradient_congr (outputGradient filters dataGradient : Handle) :
    SameCall (heap.addDataGradient used outputGradient filters dataGradient)
      (heap.addDataGradient fresh outputGradient filters dataGradient) := by
  have geometry := derived.keyed.geometry_congr otherDerived.keyed key
  have checks := heap.checkDataGradient_congr planned otherPlanned key geometry
    outputGradient filters dataGradient
  unfold addDataGradient
  rw [checks]
  cases checked : heap.checkDataGradient used outputGradient filters dataGradient with
  | error error => exact ⟨rfl, rfl, rfl⟩
  | ok held =>
    cases planned.symm.trans (checkDataGradient_eq_ok_iff.mp checked).1
    exact heap.convolve_congr used fresh derived otherDerived key .backwardData dataGradient
      outputGradient filters

theorem assignFilterGradient_congr (outputGradient data filterGradient : Handle) :
    SameCall (heap.assignFilterGradient used outputGradient data filterGradient)
      (heap.assignFilterGradient fresh outputGradient data filterGradient) := by
  have geometry := derived.keyed.geometry_congr otherDerived.keyed key
  have checks := heap.checkFilterGradient_congr planned otherPlanned key geometry
    outputGradient data filterGradient
  unfold assignFilterGradient
  rw [checks]
  cases checked : heap.checkFilterGradient used outputGradient data filterGradient with
  | error error => exact ⟨rfl, rfl, rfl⟩
  | ok held =>
    cases planned.symm.trans (checkFilterGradient_eq_ok_iff.mp checked).1
    exact heap.convolve_congr used fresh derived otherDerived key .backwardFilter filterGradient
      outputGradient data

end Heap

namespace Conv

namespace Operator

def key (operator : Operator α) : Option Key := operator.plan.map Plan.key

theorem key_withWorkspace (operator : Operator α) (pass : Pass) (workspace : Option (Array α)) :
    (operator.withWorkspace pass workspace).key = operator.key := by
  unfold key withWorkspace
  cases operator.plan <;> rfl

end Operator

/-- What a setup is given, whatever operator it is then run on. -/
structure Setup (α : Type) where
  heap : Heap α
  regular : heap.Regular
  data : Handle
  filters : Handle
  stride : Nat × Nat

namespace Setup

def key (setup : Setup α) : Key :=
  ⟨setup.heap.shape setup.data, setup.heap.shape setup.filters, setup.stride⟩

def onto [Zero α] (setup : Setup α) (allocator : Allocator) (operator : Operator α) :
    Outcome (Operator α) (Event α) Unit :=
  setup.heap.setupConvolution allocator operator setup.data setup.filters setup.stride

theorem key_onto [Zero α] (setup : Setup α) (allocator : Allocator) (operator : Operator α) :
    (setup.onto allocator operator).state.key =
      match (setup.onto allocator operator).answer with
      | .ok () => some setup.key
      | .error _ => none := by
  have planned :=
    Operator.plan_setup operator allocator setup.stride (setup.regular setup.data).rowMajor
    (setup.regular setup.filters).rowMajor
  change match (setup.onto allocator operator).answer with
    | .ok () =>
      ∃ plan, (setup.onto allocator operator).state.plan = some plan ∧ plan.key = setup.key
    | .error _ => (setup.onto allocator operator).state.plan = none at planned
  unfold Operator.key
  cases answered : (setup.onto allocator operator).answer with
  | error failure =>
    rw [answered] at planned
    exact congrArg (Option.map Plan.key) planned
  | ok _ =>
    rw [answered] at planned
    obtain ⟨plan, held, key⟩ := planned
    rw [held, ← key]
    rfl

end Setup

theorem PassPlan.derive_answers [Zero α] {allocator : Allocator}
    (grants : ∀ pass elements, allocator pass elements = none) (counting : Counting)
    (preference : Preference) (pass : Pass) (geometry : Geometry) :
    ∃ plan : PassPlan α,
      (PassPlan.derive allocator counting preference pass geometry).answer = .ok plan := by
  unfold derive
  simp only [Outcome.answer_after, Outcome.answer_ofExcept_eq_ok_iff]
  unfold ofAlgorithm Buffer.allocate
  dsimp only
  rw [grants]
  split
  · exact ⟨_, rfl⟩
  · exact ⟨_, rfl⟩

theorem Plan.derive_answers [Zero α] {allocator : Allocator}
    (grants : ∀ pass elements, allocator pass elements = none) (counting : Counting)
    (preference : Preference) (key : Key) (geometry : Geometry) :
    ∃ plan : Plan α,
      (Plan.derive allocator counting preference key geometry).answer = .ok plan := by
  have each := fun pass =>
    PassPlan.derive_answers (α := α) grants counting preference pass geometry
  obtain ⟨forward, forwardDerived⟩ := each .forward
  obtain ⟨backwardData, dataDerived⟩ := each .backwardData
  obtain ⟨backwardFilter, filterDerived⟩ := each .backwardFilter
  refine ⟨⟨key, geometry, forward, backwardData, backwardFilter⟩, ?_⟩
  unfold derive
  simp only [Outcome.answer_andThen_eq_ok_iff, Outcome.answer_map_eq_ok_iff]
  exact ⟨forward, forwardDerived, backwardData, dataDerived, backwardFilter, filterDerived, rfl⟩

-- A geometry that was accepted once is accepted again.
theorem Plan.Keyed.setup_answers [Zero α] {plan : Plan α} (keyed : plan.Keyed) {setup : Setup α}
    (key : setup.key = plan.key) {allocator : Allocator}
    (grants : ∀ pass elements, allocator pass elements = none) (operator : Operator α) :
    (setup.onto allocator operator).answer = .ok () := by
  have data : .ofShape plan.key.data = setup.heap.layout setup.data := by
    rw [← key]
    exact (setup.regular setup.data).rowMajor.symm
  have filters : .ofShape plan.key.filters = setup.heap.layout setup.filters := by
    rw [← key]
    exact (setup.regular setup.filters).rowMajor.symm
  have accepted : Geometry.ofLayouts (setup.heap.layout setup.data)
      (setup.heap.layout setup.filters) setup.stride = .ok plan.geometry := by
    unfold Keyed at keyed
    rw [data, filters, ← key] at keyed
    exact keyed
  obtain ⟨derived, answered⟩ := Plan.derive_answers (α := α) grants operator.counting
    operator.config.preference ⟨(setup.heap.layout setup.data).dims,
      (setup.heap.layout setup.filters).dims, setup.stride⟩ plan.geometry
  exact Operator.setup_answers accepted answered

end Conv

/-! Only setups and clearing change the key that an operator holds. -/

section

variable [Zero α] [One α] [Add α] [Mul α] [MatrixProduct α] {heap : Heap α} {operator : Operator α}

namespace Heap

theorem key_convolve {plan : Plan α} {pass : Pass} {target first second : Handle} :
    (heap.convolve operator plan pass target first second).state.1.key = operator.key := by
  unfold convolve
  split
  · rfl
  · exact operator.key_withWorkspace pass _

theorem key_convolveForward {output data filters : Handle} :
    (heap.convolveForward operator output data filters).state.1.key = operator.key := by
  unfold convolveForward
  cases heap.checkForward operator output data filters with
  | error error => rfl
  | ok plan => exact key_convolve

theorem key_addDataGradient {outputGradient filters dataGradient : Handle} :
    (heap.addDataGradient operator outputGradient filters dataGradient).state.1.key =
      operator.key := by
  unfold addDataGradient
  cases heap.checkDataGradient operator outputGradient filters dataGradient with
  | error error => rfl
  | ok plan => exact key_convolve

theorem key_assignFilterGradient {outputGradient data filterGradient : Handle} :
    (heap.assignFilterGradient operator outputGradient data filterGradient).state.1.key =
      operator.key := by
  unfold assignFilterGradient
  cases heap.checkFilterGradient operator outputGradient data filterGradient with
  | error error => rfl
  | ok plan => exact key_convolve

end Heap

namespace Conv

/-- The setup that a call is, if the operator answers it. -/
def Call.answeredSetup (operator : Operator α) : Call α → Option (Setup α)
  | .setup heap regular allocator data filters stride =>
    let setup : Setup α := ⟨heap, regular, data, filters, stride⟩
    match (setup.onto allocator operator).answer with
    | .ok () => some setup
    | .error _ => none
  | _ => none

namespace Operator

/-- The last setup of a history that was answered. -/
def lastSetup (operator : Operator α) : List (Call α) → Option (Setup α)
  | [] => none
  | request :: rest => (lastSetup (operator.call request) rest).or (request.answeredSetup operator)

theorem key_call {request : Call α} {key : Key} (held : (operator.call request).key = some key) :
    ((request.answeredSetup operator).map Setup.key).or operator.key = some key := by
  cases request with
  | setup heap regular allocator data filters stride =>
    let setup : Setup α := ⟨heap, regular, data, filters, stride⟩
    change (setup.onto allocator operator).state.key = some key at held
    change ((match (setup.onto allocator operator).answer with
      | .ok () => some setup
      | .error _ => none).map Setup.key).or operator.key = some key
    rw [setup.key_onto] at held
    cases answered : (setup.onto allocator operator).answer with
    | error failure =>
      rw [answered] at held
      cases held
    | ok _ =>
      rw [answered] at held
      exact held
  | forward heap output data filters => exact Heap.key_convolveForward.symm.trans held
  | dataGradient heap outputGradient filters dataGradient =>
    exact Heap.key_addDataGradient.symm.trans held
  | filterGradient heap outputGradient data filterGradient =>
    exact Heap.key_assignFilterGradient.symm.trans held
  | clear => cases held

-- From any start, since the first call of a history moves it.
theorem key_run {history : List (Call α)} {key : Key}
    (held : (history.foldl call operator).key = some key) :
    ((operator.lastSetup history).map Setup.key).or operator.key = some key := by
  induction history generalizing operator with
  | nil => exact held
  | cons request rest ih =>
    have later := ih held
    unfold lastSetup
    cases last : (operator.call request).lastSetup rest with
    | some setup =>
      rw [last] at later
      exact later
    | none =>
      rw [last] at later
      exact key_call later

/-- An operator that a history has left configured cannot be told from a new one on which
only the last answered setup of that history is run: any further call answers the same
and leaves the same tensors, however sizes are counted. That setup succeeds on the new
operator unless its workspaces are refused. -/
theorem history_leaves_no_trace [MatrixProduct.Assigning α] (config : EngineConfig)
    (history : List (Call α)) (counting : Counting)
    (configured : (after config history counting).isConfigured = true) :
    ∃ setup, (new config counting).lastSetup history = some setup ∧ ∀ allocator : Allocator,
      let used := after config history counting
      let fresh := setup.onto allocator (new config counting)
      ((∀ pass elements, allocator pass elements = none) → fresh.answer = .ok ()) ∧
      (fresh.answer = .ok () → ∀ heap : Heap α,
        (∀ output data filters, Heap.SameCall (heap.convolveForward used output data filters)
          (heap.convolveForward fresh.state output data filters)) ∧
        (∀ outputGradient filters dataGradient,
          Heap.SameCall (heap.addDataGradient used outputGradient filters dataGradient)
            (heap.addDataGradient fresh.state outputGradient filters dataGradient)) ∧
        (∀ outputGradient data filterGradient,
          Heap.SameCall (heap.assignFilterGradient used outputGradient data filterGradient)
            (heap.assignFilterGradient fresh.state outputGradient data filterGradient))) := by
  obtain ⟨plan, planned⟩ := Option.isSome_iff_exists.mp configured
  obtain ⟨settings, derived⟩ := derived_after config history counting
  have sound := derived plan planned
  rw [settings.config, settings.counting] at sound
  have traced : (((new config counting).lastSetup history).map Setup.key).or
      (new config counting : Operator α).key = some plan.key :=
    key_run (congrArg (Option.map Plan.key) planned)
  cases last : (new config counting).lastSetup history with
  | none =>
    rw [last] at traced
    cases traced
  | some setup =>
    rw [last] at traced
    have key : setup.key = plan.key := Option.some.inj traced
    refine ⟨setup, rfl, fun allocator => ⟨fun grants => sound.keyed.setup_answers key grants _, ?_⟩⟩
    intro answered heap
    have dataRowMajor := (setup.regular setup.data).rowMajor
    have filtersRowMajor := (setup.regular setup.filters).rowMajor
    obtain ⟨other, otherPlanned, otherKey⟩ :=
      planned_of_setup dataRowMajor filtersRowMajor answered
    have begins : (new config counting : Operator α).Derived := nofun
    have otherSound := begins.setup dataRowMajor filtersRowMajor other otherPlanned
    rw [sameSettings_setup.config, sameSettings_setup.counting] at otherSound
    have same : plan.key = other.key := key.symm.trans otherKey.symm
    exact ⟨heap.convolveForward_congr planned sound otherPlanned otherSound same,
      heap.addDataGradient_congr planned sound otherPlanned otherSound same,
      heap.assignFilterGradient_congr planned sound otherPlanned otherSound same⟩

theorem history_leaves_no_trace_after_nan :
    let empty : Heap Float32 := Heap.empty
    let nan := Float32.ofBits 0x7fc00000
    let heap := ((((empty.create #[nan, 2, nan, 4, 5, 6] ⟨1, 1, 3, 2⟩).state.create
      #[7, 8] ⟨1, 1, 2, 1⟩).state.create #[] Shape.empty).state.create
        #[6, 5, 4, 3, 2, 1] ⟨1, 1, 3, 2⟩).state
    let config : EngineConfig := ⟨0, .limit 48⟩
    ∃ regular : heap.Regular,
      let used := after config
        [.setup heap regular hostAllocator ⟨0⟩ ⟨1⟩ (1, 1), .forward heap ⟨2⟩ ⟨0⟩ ⟨1⟩] .words
      let fresh :=
        (heap.setupConvolution hostAllocator (new config .words) ⟨0⟩ ⟨1⟩ (1, 1)).state
      Heap.SameCall (heap.convolveForward used ⟨2⟩ ⟨3⟩ ⟨1⟩)
        (heap.convolveForward fresh ⟨2⟩ ⟨3⟩ ⟨1⟩) := by
  intro empty nan heap config
  have regular : heap.Regular :=
    (((Heap.regular_empty.create _ _).create _ _).create _ _).create _ _
  refine ⟨regular, ?_⟩
  let setup : Setup Float32 := ⟨heap, regular, ⟨0⟩, ⟨1⟩, (1, 1)⟩
  have answered : (setup.onto hostAllocator (new config .words)).answer = .ok () := by
    have granted :
        ((setup.onto hostAllocator (new config .words)).answer matches .ok ()) = true := by
      dsimp only [setup, Setup.onto, config, heap, empty, nan]
      decide +kernel
    revert granted
    cases (setup.onto hostAllocator (new config .words)).answer with
    | ok _ => exact fun _ => rfl
    | error _ => nofun
  clear_value heap config
  intro used fresh
  have held := setup.key_onto hostAllocator (new config .words)
  rw [answered] at held
  have configured : used.isConfigured = true := by
    have key : used.key = some setup.key := Heap.key_convolveForward.trans held
    exact (Option.isSome_map).symm.trans (congrArg Option.isSome key)
  obtain ⟨last, found, same⟩ := history_leaves_no_trace config _ .words configured
  have evaluated : (new config .words).lastSetup
      [.setup heap regular hostAllocator ⟨0⟩ ⟨1⟩ (1, 1), .forward heap ⟨2⟩ ⟨0⟩ ⟨1⟩] =
        some setup := by
    change (match (setup.onto hostAllocator (new config .words)).answer with
      | .ok () => some setup
      | .error _ => none) = some setup
    rw [answered]
  cases evaluated.symm.trans found
  exact ((same hostAllocator).2 answered heap).1 ⟨2⟩ ⟨3⟩ ⟨1⟩

end Operator

end Conv

end

end TensorEngine

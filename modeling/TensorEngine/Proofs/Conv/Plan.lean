import TensorEngine.Conv.Operator
import TensorEngine.Proofs.Conv.Geometry
import TensorEngine.Proofs.Storage

/-! Convolution plans. A plan follows from its key, the cap on workspaces and how sizes are
counted; deriving one establishes that, and running its passes keeps it. Where the sizes
are counted as they are, the plan is consistent: each pass owns just what it needs. -/

set_option autoImplicit false

namespace TensorEngine.Conv

variable {α : Type} {geometry : Geometry}

/-- A pass runs what is selected for it and owns a workspace of the size that is counted for
that, if it is counted at all. -/
structure PassPlan.Derived (counting : Counting) (pass : Pass) (geometry : Geometry) (cap : Nat)
    (plan : PassPlan α) : Prop where
  algorithm : plan.algorithm = Algorithm.select counting pass geometry cap
  workspace : plan.workspace.map Array.size =
    let elements := plan.algorithm.workspaceElements counting pass geometry
    if 0 < elements then some elements else none
  bytes : plan.workspaceBytes = plan.algorithm.workspaceBytes counting pass geometry

namespace Plan

/-- The geometry is the one of the key. -/
def Keyed (plan : Plan α) : Prop :=
  Geometry.ofLayouts (.ofShape plan.key.data) (.ofShape plan.key.filters) plan.key.stride =
    .ok plan.geometry

structure Derived (counting : Counting) (preference : Preference) (plan : Plan α) : Prop where
  keyed : plan.Keyed
  passes : ∀ pass, (plan.passes.get pass).Derived counting pass plan.geometry preference.cap

/-- The entries of the column matrix are counted as they are. -/
def Counted (counting : Counting) (plan : Plan α) : Prop :=
  counting.Keeps (plan.geometry.columnRows * plan.geometry.columnCols)

end Plan

namespace Operator

def Derived (operator : Operator α) : Prop :=
  ∀ plan, operator.plan = some plan → plan.Derived operator.counting operator.config.preference

/-- The plan of the operator, if it has one, is counted as it is. -/
def Counted (counting : Counting) (operator : Operator α) : Prop :=
  ∀ plan, operator.plan = some plan → plan.Counted counting

theorem counted_of_entries {counting : Counting} {operator : Operator α} {entries : Nat}
    (held : operator.plan.map (fun plan =>
      plan.geometry.columnRows * plan.geometry.columnCols) = some entries)
    (keeps : counting.Keeps entries) : operator.Counted counting := by
  intro plan planned
  rw [planned] at held
  obtain rfl : plan.geometry.columnRows * plan.geometry.columnCols = entries := Option.some.inj held
  exact keeps

end Operator

theorem Geometry.Admitted.columnMatrix_pos (admitted : geometry.Admitted) :
    0 < geometry.columnRows * geometry.columnCols := by
  obtain ⟨-, channels, rows, cols⟩ := Shape.pos_of_count admitted.filtersHold
  obtain ⟨-, -, outRows, outCols⟩ := Shape.pos_of_count admitted.outputHolds
  exact Nat.mul_pos (Nat.mul_pos (Nat.mul_pos channels rows) cols) (Nat.mul_pos outRows outCols)

section

variable {counting : Counting} {pass : Pass} {cap : Nat} {plan : PassPlan α}

theorem Algorithm.select_eq (counting : Counting) (pass : Pass) (geometry : Geometry) (cap : Nat) :
    Algorithm.select counting pass geometry cap =
      if Algorithm.lowered.workspaceBytes counting pass geometry ≤ cap then .lowered
      else .direct := by
  have none : Algorithm.direct.workspaceBytes counting pass geometry = 0 :=
    Nat.eq_zero_of_le_zero (Nat.le_trans (counting.count_le _) (Nat.zero_mul _).le)
  unfold select bySpeed
  by_cases fits : Algorithm.lowered.workspaceBytes counting pass geometry ≤ cap
  · simp [fits]
  · simp [fits, none]

end

-- A lowered pass owns a workspace for all of its column matrix.
theorem Plan.Derived.owned {counting : Counting} {preference : Preference} {plan : Plan α}
    (derived : plan.Derived counting preference) (counted : plan.Counted counting) {pass : Pass}
    (lowered : (plan.passes.get pass).algorithm = .lowered) :
    (plan.passes.get pass).workspace.map Array.size =
      some (plan.geometry.columnRows * plan.geometry.columnCols) := by
  have matrix := (Geometry.admitted_of_ofLayouts derived.keyed).columnMatrix_pos
  have entries : (plan.passes.get pass).algorithm.workspaceElements counting pass plan.geometry =
      plan.geometry.columnRows * plan.geometry.columnCols := by
    rw [lowered]
    exact counted
  have owned := (derived.passes pass).workspace
  rw [entries, if_pos matrix] at owned
  exact owned

section

variable [Zero α] {allocator : Allocator} {counting : Counting} {preference : Preference}
  {pass : Pass}

theorem PassPlan.derived_of_derive {plan : PassPlan α}
    (answered : (PassPlan.derive allocator counting preference pass geometry).answer = .ok plan) :
    plan.Derived counting pass geometry preference.cap := by
  unfold derive at answered
  rw [Outcome.answer_after, Outcome.answer_ofExcept_eq_ok_iff] at answered
  unfold ofAlgorithm Buffer.allocate at answered
  dsimp only at answered
  split at answered
  · rename_i needed
    split at answered
    · cases answered
    · cases answered
      exact ⟨rfl, by simp [needed], rfl⟩
  · rename_i nothing
    cases answered
    exact ⟨rfl, by simp [nothing], rfl⟩

theorem Plan.derived_of_derive {key : Key}
    (accepted : Geometry.ofLayouts (.ofShape key.data) (.ofShape key.filters) key.stride =
      .ok geometry)
    {plan : Plan α}
    (answered : (Plan.derive allocator counting preference key geometry).answer = .ok plan) :
    plan.key = key ∧ plan.Derived counting preference := by
  unfold derive at answered
  obtain ⟨forward, forwardDerived, answered⟩ := Outcome.answer_andThen_eq_ok_iff.mp answered
  obtain ⟨backwardData, dataDerived, answered⟩ := Outcome.answer_andThen_eq_ok_iff.mp answered
  obtain ⟨backwardFilter, filterDerived, rfl⟩ := Outcome.answer_map_eq_ok_iff.mp answered
  refine ⟨rfl, accepted, fun pass => ?_⟩
  cases pass with
  | forward => exact PassPlan.derived_of_derive forwardDerived
  | backwardData => exact PassPlan.derived_of_derive dataDerived
  | backwardFilter => exact PassPlan.derived_of_derive filterDerived

end

/-! Running a pass leaves the lengths of its target and of its workspace alone, also when it
breaks off. -/

theorem foldlM_keeps {β γ : Type} (keeps : β → Prop) {step : β → γ → Option β}
    (each : ∀ state item next, keeps state → step state item = some next → keeps next)
    (items : List γ) {start last : β} (begins : keeps start)
    (ran : items.foldlM step start = some last) : keeps last := by
  induction items generalizing start with
  | nil =>
    cases ran
    exact begins
  | cons item rest ih =>
    rw [List.foldlM_cons] at ran
    obtain ⟨next, stepped, rested⟩ := Option.bind_eq_some_iff.mp ran
    exact ih (each start item next begins stepped) rested

theorem size_fillWorkspace {workspace columns filled : Array α}
    (ran : fillWorkspace geometry workspace columns = some filled) :
    filled.size = workspace.size := by
  unfold fillWorkspace at ran
  split at ran
  · cases ran
    exact Buffer.size_overwrite ..
  · cases ran

theorem size_scatterAdd [Add α] {target values added : Array α} {moves : List (Nat × Nat)}
    (ran : Buffer.scatterAdd target values moves = some added) : added.size = target.size := by
  refine foldlM_keeps (fun cells : Array α => cells.size = target.size) ?_ moves rfl ran
  intro cells move next kept stepped
  obtain ⟨value, -, stored⟩ := Option.bind_eq_some_iff.mp stepped
  unfold Buffer.addAt at stored
  split at stored
  · cases stored
    exact (Array.size_set ..).trans kept
  · cases stored

theorem size_raise [Add α] {columns gradient raised : Array α} {sample : Nat}
    (ran : raise geometry columns sample gradient = some raised) : raised.size = gradient.size := by
  unfold raise at ran
  split at ran
  · exact size_scatterAdd ran
  · cases ran

/-- Targets of one length, and workspaces of one length. -/
structure Written.SameSizes (one other : Written α) : Prop where
  target : one.target.size = other.target.size
  workspace : one.workspace.size = other.workspace.size

theorem Written.SameSizes.trans {one other third : Written α} (first : one.SameSizes other)
    (second : other.SameSizes third) : one.SameSizes third :=
  ⟨first.target.trans second.target, first.workspace.trans second.workspace⟩

section

variable [Zero α] [One α] [MatrixProduct α]

theorem sameSizes_forwardSample {data filters : Array α} {written next : Written α} {sample : Nat}
    (ran : forwardSample geometry data filters written sample = some next) :
    next.SameSizes written := by
  unfold forwardSample at ran
  simp only [Option.bind_eq_bind, Option.bind_eq_some_iff] at ran
  obtain ⟨_, _, _, filled, _, _, _, _, _, _, _, _, last⟩ := ran
  cases last
  exact ⟨Buffer.size_overwrite .., size_fillWorkspace filled⟩

theorem sameSizes_dataGradientSample [Add α] {outputGradient filters : Array α}
    {written next : Written α} {sample : Nat}
    (ran : dataGradientSample geometry outputGradient filters written sample = some next) :
    next.SameSizes written := by
  unfold dataGradientSample at ran
  simp only [Option.bind_eq_bind, Option.bind_eq_some_iff] at ran
  obtain ⟨_, _, _, _, _, _, _, _, _, filled, _, raised, last⟩ := ran
  cases last
  exact ⟨size_raise raised, size_fillWorkspace filled⟩

theorem sameSizes_filterGradientSample {outputGradient data : Array α} {written next : Written α}
    {sample : Nat}
    (ran : filterGradientSample geometry outputGradient data written sample = some next) :
    next.SameSizes written := by
  unfold filterGradientSample at ran
  simp only [Option.bind_eq_bind, Option.bind_eq_some_iff] at ran
  obtain ⟨_, _, _, filled, _, _, _, _, _, _, _, _, last⟩ := ran
  cases last
  exact ⟨Buffer.size_overwrite .., size_fillWorkspace filled⟩

end

/-- What a run leaves is as long as what it was given. -/
structure Run.KeepsSizes (target : Array α) (workspace : Option (Array α))
    (run : Run α) : Prop where
  target : run.target.size = target.size
  workspace : run.workspace.map Array.size = workspace.map Array.size

theorem keepsSizes_overSamples {step : Written α → Nat → Option (Written α)}
    (each : ∀ written sample next, step written sample = some next → next.SameSizes written)
    {target workspace : Array α} {start : Written α}
    (begins : start.SameSizes ⟨target, workspace⟩) :
    (Run.ofWritten ⟨target, workspace⟩ (overSamples geometry step start)).KeepsSizes target
      (some workspace) := by
  cases ran : overSamples geometry step start with
  | none => exact ⟨rfl, rfl⟩ -- all as it was before the run
  | some last =>
    have kept := foldlM_keeps (Written.SameSizes · ⟨target, workspace⟩)
      (fun written sample next kept stepped => (each written sample next stepped).trans kept) _
        begins ran
    exact ⟨kept.target, congrArg some kept.workspace⟩

section

variable [Zero α] [Add α]

theorem size_runDirect [Mul α] {pass : Pass} {target first second result : Array α}
    (ran : runDirect pass geometry target first second = some result) :
    result.size = target.size := by
  unfold runDirect forwardDirect dataGradientDirect filterGradientDirect at ran
  cases pass with
  | forward =>
    dsimp only at ran
    split at ran
    · exact Buffer.size_of_tabulate ran
    · cases ran
  | backwardData =>
    dsimp only at ran
    split at ran
    · exact Buffer.size_of_tabulate ran
    · cases ran
  | backwardFilter => exact Buffer.size_of_tabulate ran

variable [One α] [MatrixProduct α]

theorem keepsSizes_runLowered (pass : Pass) (geometry : Geometry)
    (target workspace first second : Array α) :
    (runLowered pass geometry target workspace first second).KeepsSizes target
      (some workspace) := by
  unfold runLowered
  cases pass with
  | forward =>
    dsimp only
    split
    · exact ⟨rfl, rfl⟩
    · exact keepsSizes_overSamples (fun _ _ _ => sameSizes_forwardSample) ⟨rfl, rfl⟩
  | backwardData =>
    dsimp only
    split
    · exact ⟨rfl, rfl⟩
    · exact keepsSizes_overSamples (fun _ _ _ => sameSizes_dataGradientSample) ⟨rfl, rfl⟩
  | backwardFilter =>
    dsimp only
    split
    · exact ⟨Buffer.size_zeros _, rfl⟩
    · exact keepsSizes_overSamples (fun _ _ _ => sameSizes_filterGradientSample)
        ⟨Buffer.size_zeros _, rfl⟩

theorem keepsSizes_run [Mul α] (pass : Pass) (algorithm : Algorithm) (geometry : Geometry)
    (workspace : Option (Array α)) (target first second : Array α) :
    (run pass algorithm geometry workspace target first second).KeepsSizes target workspace := by
  unfold run
  cases algorithm with
  | direct =>
    dsimp only
    cases ran : runDirect pass geometry target first second with
    | none => exact ⟨rfl, rfl⟩
    | some result => exact ⟨size_runDirect ran, rfl⟩
  | lowered =>
    cases workspace with
    | none => exact ⟨rfl, rfl⟩
    | some scratch => exact keepsSizes_runLowered ..

end

theorem PassPlan.Derived.withWorkspace {counting : Counting} {pass : Pass} {cap : Nat}
    {plan : PassPlan α} (derived : plan.Derived counting pass geometry cap)
    {workspace : Option (Array α)}
    (same : workspace.map Array.size = plan.workspace.map Array.size) :
    PassPlan.Derived counting pass geometry cap { plan with workspace } :=
  ⟨derived.algorithm, same.trans derived.workspace, derived.bytes⟩

namespace Operator

variable {operator : Operator α}

theorem derived_released (operator : Operator α) : operator.released.Derived := nofun

theorem Derived.withWorkspace (derived : operator.Derived) {pass : Pass}
    {workspace : Option (Array α)} (same : ∀ plan, operator.plan = some plan →
      workspace.map Array.size = (plan.passes.get pass).workspace.map Array.size) :
    (operator.withWorkspace pass workspace).Derived := by
  intro after kept
  obtain ⟨plan, held, rfl⟩ := Option.map_eq_some_iff.mp kept
  obtain ⟨keyed, passes⟩ := derived plan held
  refine ⟨keyed, fun other => ?_⟩
  dsimp only
  rw [ByPass.get_set]
  split
  · rename_i here
    exact here ▸ (passes pass).withWorkspace (same plan held)
  · exact passes other

theorem cached_eq_true_iff {key : Key} :
    operator.cached key = true ↔ ∃ plan, operator.plan = some plan ∧ plan.key = key := by
  unfold cached
  cases operator.plan <;> simp

/-- All that a setup can do: keep the plan it has, release it, or hold a derived one. -/
theorem setup_cases [Zero α] (allocator : Allocator) (operator : Operator α) (data filters : Layout)
    (stride : Nat × Nat) :
    let key : Key := ⟨data.dims, filters.dims, stride⟩
    let called := operator.setup allocator data filters stride
    (operator.cached key = true ∧ called.answer = .ok () ∧ called.state = operator) ∨
      ((∃ failure, called.answer = .error failure) ∧ called.state = operator.released) ∨
        ∃ geometry plan, Geometry.ofLayouts data filters stride = .ok geometry ∧
          (Plan.derive allocator operator.counting operator.config.preference key geometry).answer =
            .ok plan ∧
          called.answer = .ok () ∧ called.state = { operator with plan := some plan } := by
  intro key called
  cases cached : operator.cached key with
  | true =>
    have kept : called = ⟨.ok (), operator, [.planReused key]⟩ := if_pos cached
    exact .inl ⟨rfl, by rw [kept], by rw [kept]⟩
  | false =>
    refine .inr ?_
    -- The old plan is released before anything can fail.
    have derives : called = _ := if_neg fun held => Bool.false_ne_true (cached.symm.trans held)
    cases accepted : Geometry.ofLayouts data filters stride with
    | error error =>
      rw [accepted] at derives
      exact .inl ⟨⟨.refused error, by rw [derives]; rfl⟩, by rw [derives]; rfl⟩
    | ok geometry =>
      rw [accepted] at derives
      dsimp only at derives
      cases answered : (Plan.derive allocator operator.counting operator.config.preference key
        geometry :
          Outcome Unit (Event α) (Plan α)).answer with
      | error failure =>
        rw [answered] at derives
        exact .inl ⟨⟨failure, by rw [derives]⟩, by rw [derives]⟩
      | ok plan =>
        rw [answered] at derives
        exact .inr ⟨geometry, plan, rfl, answered, by rw [derives], by rw [derives]⟩

/-- What an operator keeps for good. -/
structure SameSettings (one other : Operator α) : Prop where
  config : one.config = other.config
  counting : one.counting = other.counting

theorem SameSettings.refl (operator : Operator α) : operator.SameSettings operator := ⟨rfl, rfl⟩

theorem SameSettings.trans {one other third : Operator α} (first : one.SameSettings other)
    (second : other.SameSettings third) : one.SameSettings third :=
  ⟨first.config.trans second.config, first.counting.trans second.counting⟩

variable [Zero α] {allocator : Allocator} {data filters : Layout} {stride : Nat × Nat}

theorem sameSettings_setup :
    (operator.setup allocator data filters stride).state.SameSettings operator := by
  obtain ⟨-, -, state⟩ | ⟨-, state⟩ | ⟨_, _, -, -, -, state⟩ :=
    setup_cases allocator operator data filters stride
  · rw [state]
    exact .refl operator
  · rw [state]
    exact ⟨rfl, rfl⟩
  · rw [state]
    exact ⟨rfl, rfl⟩

theorem Derived.setup (derived : operator.Derived) (dataRowMajor : data.RowMajor)
    (filtersRowMajor : filters.RowMajor) :
    (operator.setup allocator data filters stride).state.Derived := by
  obtain ⟨-, -, state⟩ | ⟨-, state⟩ | ⟨geometry, plan, accepted, answered, -, state⟩ :=
    setup_cases allocator operator data filters stride
  · rw [state]
    exact derived
  · rw [state]
    exact derived_released operator
  · rw [state]
    rintro _ ⟨⟩
    rw [dataRowMajor, filtersRowMajor] at accepted
    exact (Plan.derived_of_derive accepted answered).2

theorem setup_answers {geometry : Geometry}
    (accepted : Geometry.ofLayouts data filters stride = .ok geometry) {plan : Plan α}
    (derived : (Plan.derive allocator operator.counting operator.config.preference
      ⟨data.dims, filters.dims, stride⟩ geometry).answer = .ok plan) :
    (operator.setup allocator data filters stride).answer = .ok () := by
  cases cached : operator.cached ⟨data.dims, filters.dims, stride⟩ with
  | true => exact congrArg Outcome.answer (if_pos cached)
  | false =>
    have derives : operator.setup allocator data filters stride = _ :=
      if_neg fun held => Bool.false_ne_true (cached.symm.trans held)
    rw [accepted] at derives
    dsimp only at derives
    rw [derived] at derives
    rw [derives]

variable (allocator operator stride) in
/-- A setup that answers holds a plan for what it was given; one that fails holds none. -/
theorem plan_setup (dataRowMajor : data.RowMajor) (filtersRowMajor : filters.RowMajor) :
    match (operator.setup allocator data filters stride).answer with
    | .ok () => ∃ plan, (operator.setup allocator data filters stride).state.plan = some plan ∧
        plan.key = ⟨data.dims, filters.dims, stride⟩
    | .error _ => (operator.setup allocator data filters stride).state.plan = none := by
  obtain ⟨cached, answer, state⟩ | ⟨⟨failure, answer⟩, state⟩ | ⟨geometry, plan, accepted, derived,
      answer, state⟩ :=
    setup_cases allocator operator data filters stride
  · rw [answer, state]
    exact cached_eq_true_iff.mp cached
  · rw [answer, state]
    rfl
  · rw [answer, state]
    rw [dataRowMajor, filtersRowMajor] at accepted
    exact ⟨plan, rfl, (Plan.derived_of_derive accepted derived).1⟩

theorem planned_of_setup (dataRowMajor : data.RowMajor) (filtersRowMajor : filters.RowMajor)
    (answered : (operator.setup allocator data filters stride).answer = .ok ()) :
    ∃ plan, (operator.setup allocator data filters stride).state.plan = some plan ∧
      plan.key = ⟨data.dims, filters.dims, stride⟩ := by
  have held := plan_setup operator allocator stride dataRowMajor filtersRowMajor
  rw [answered] at held
  exact held

end Operator

end TensorEngine.Conv

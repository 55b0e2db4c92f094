import TensorEngine.Heap.Convolution
import TensorEngine.Proofs.Conv.Plan
import TensorEngine.Proofs.Heap
import TensorEngine.Proofs.Matrix

/-! Histories of an operator. Each call may meet tensors and an allocator of its own
and may fail; the operator stays unconfigured or keeps the plan that its key, its cap and
the counting of sizes determine. A column matrix that is counted as nothing is granted to
every setup, and missed by every pass. -/

set_option autoImplicit false

namespace TensorEngine

open TensorEngine.Conv

variable {α : Type}

namespace Conv.Operator

theorem planFor_eq_ok_iff {operator : Operator α} {pass : Pass} {plan : Plan α} :
    operator.planFor pass = .ok plan ↔ operator.plan = some plan := by
  unfold planFor
  cases operator.plan <;> simp

end Conv.Operator

namespace Heap

variable {heap : Heap α} {operator : Operator α} {plan : Plan α}

theorem checkForward_eq_ok_iff {output data filters : Handle} :
    heap.checkForward operator output data filters = .ok plan ↔
      operator.plan = some plan ∧ heap.shape data = plan.key.data ∧
        heap.shape filters = plan.key.filters ∧
        output ≠ data ∧ output ≠ filters := by
  unfold checkForward
  simp only [bind_eq_ok_iff, Operator.planFor_eq_ok_iff, expectShape_eq_ok_iff, distinct_eq_ok_iff]
  constructor
  · rintro ⟨held, planned, _, sameData, _, sameFilters, _, notData, _, notFilters, last⟩
    cases last
    exact ⟨planned, sameData, sameFilters, notData, notFilters⟩
  · rintro ⟨planned, sameData, sameFilters, notData, notFilters⟩
    exact ⟨plan, planned, (), sameData, (), sameFilters, (), notData, (), notFilters, rfl⟩

theorem checkDataGradient_eq_ok_iff {outputGradient filters dataGradient : Handle} :
    heap.checkDataGradient operator outputGradient filters dataGradient = .ok plan ↔
      operator.plan = some plan ∧ heap.shape outputGradient = plan.geometry.output.dims ∧
        heap.shape filters = plan.key.filters ∧ heap.shape dataGradient = plan.key.data ∧
        dataGradient ≠ filters ∧ dataGradient ≠ outputGradient := by
  unfold checkDataGradient
  simp only [bind_eq_ok_iff, Operator.planFor_eq_ok_iff, expectShape_eq_ok_iff, distinct_eq_ok_iff]
  constructor
  · rintro ⟨held, planned, _, sameOutput, _, sameFilters, _, sameData, _, notFilters, _,
      notOutput, last⟩
    cases last
    exact ⟨planned, sameOutput, sameFilters, sameData, notFilters, notOutput⟩
  · rintro ⟨planned, sameOutput, sameFilters, sameData, notFilters, notOutput⟩
    exact ⟨plan, planned, (), sameOutput, (), sameFilters, (), sameData, (), notFilters, (),
      notOutput, rfl⟩

theorem checkFilterGradient_eq_ok_iff {outputGradient data filterGradient : Handle} :
    heap.checkFilterGradient operator outputGradient data filterGradient = .ok plan ↔
      operator.plan = some plan ∧ heap.shape outputGradient = plan.geometry.output.dims ∧
        heap.shape data = plan.key.data ∧ heap.shape filterGradient = plan.key.filters ∧
        filterGradient ≠ data ∧ filterGradient ≠ outputGradient := by
  unfold checkFilterGradient
  simp only [bind_eq_ok_iff, Operator.planFor_eq_ok_iff, expectShape_eq_ok_iff, distinct_eq_ok_iff]
  constructor
  · rintro ⟨held, planned, _, sameOutput, _, sameData, _, sameFilters, _, notData, _,
      notOutput, last⟩
    cases last
    exact ⟨planned, sameOutput, sameData, sameFilters, notData, notOutput⟩
  · rintro ⟨planned, sameOutput, sameData, sameFilters, notData, notOutput⟩
    exact ⟨plan, planned, (), sameOutput, (), sameData, (), sameFilters, (), notData, (),
      notOutput, rfl⟩

theorem geometry_eq (regular : heap.Regular) (keyed : plan.Keyed) {data filters : Handle}
    (sameData : heap.shape data = plan.key.data)
    (sameFilters : heap.shape filters = plan.key.filters) :
    plan.geometry = ⟨heap.layout data, heap.layout filters, plan.key.stride⟩ := by
  obtain ⟨derived, -⟩ := Geometry.ofLayouts_eq_ok_iff.mp keyed
  rw [derived, ← sameData, ← sameFilters]
  exact congrArg₂ (Geometry.mk · · _) (regular data).rowMajor.symm (regular filters).rowMajor.symm

variable [Zero α] [One α] [Add α] [Mul α] [MatrixProduct α]

-- A pass changes nothing of an operator but what one workspace holds.
theorem convolve_operator {pass : Pass} {target first second : Handle}
    (planned : operator.plan = some plan) :
    let after := (heap.convolve operator plan pass target first second).state.1
    after.SameSettings operator ∧ (operator.Derived → after.Derived) := by
  unfold convolve
  split
  · exact ⟨.refl operator, id⟩
  · refine ⟨⟨rfl, rfl⟩, fun derived => derived.withWorkspace fun other held => ?_⟩
    cases planned.symm.trans held
    exact (keepsSizes_run ..).workspace

theorem convolveForward_operator {output data filters : Handle} :
    let after := (heap.convolveForward operator output data filters).state.1
    after.SameSettings operator ∧ (operator.Derived → after.Derived) := by
  unfold convolveForward
  cases checked : heap.checkForward operator output data filters with
  | error error => exact ⟨.refl operator, id⟩
  | ok plan => exact convolve_operator (checkForward_eq_ok_iff.mp checked).1

theorem addDataGradient_operator {outputGradient filters dataGradient : Handle} :
    let after := (heap.addDataGradient operator outputGradient filters dataGradient).state.1
    after.SameSettings operator ∧ (operator.Derived → after.Derived) := by
  unfold addDataGradient
  cases checked : heap.checkDataGradient operator outputGradient filters dataGradient with
  | error error => exact ⟨.refl operator, id⟩
  | ok plan => exact convolve_operator (checkDataGradient_eq_ok_iff.mp checked).1

theorem assignFilterGradient_operator {outputGradient data filterGradient : Handle} :
    let after := (heap.assignFilterGradient operator outputGradient data filterGradient).state.1
    after.SameSettings operator ∧ (operator.Derived → after.Derived) := by
  unfold assignFilterGradient
  cases checked : heap.checkFilterGradient operator outputGradient data filterGradient with
  | error error => exact ⟨.refl operator, id⟩
  | ok plan => exact convolve_operator (checkFilterGradient_eq_ok_iff.mp checked).1

end Heap

namespace Conv

/-- A call on an operator. Tensors and allocator are whatever they are at that time. -/
inductive Call (α : Type) where
  | setup (heap : Heap α) (regular : heap.Regular) (allocator : Allocator) (data filters : Handle)
      (stride : Nat × Nat)
  | forward (heap : Heap α) (output data filters : Handle)
  | dataGradient (heap : Heap α) (outputGradient filters dataGradient : Handle)
  | filterGradient (heap : Heap α) (outputGradient data filterGradient : Handle)
  | clear

variable [Zero α] [One α] [Add α] [Mul α] [MatrixProduct α]

namespace Operator

-- The operator after a call, whether the call answered or failed.
def call (operator : Operator α) : Call α → Operator α
  | .setup heap _ allocator data filters stride =>
    (heap.setupConvolution allocator operator data filters stride).state
  | .forward heap output data filters => (heap.convolveForward operator output data filters).state.1
  | .dataGradient heap outputGradient filters dataGradient =>
    (heap.addDataGradient operator outputGradient filters dataGradient).state.1
  | .filterGradient heap outputGradient data filterGradient =>
    (heap.assignFilterGradient operator outputGradient data filterGradient).state.1
  | .clear => operator.clear.state

def after (config : EngineConfig) (history : List (Call α)) (counting : Counting) : Operator α :=
  history.foldl call (new config counting)

theorem sameSettings_call (operator : Operator α) (request : Call α) :
    (operator.call request).SameSettings operator := by
  cases request with
  | setup heap regular allocator data filters stride => exact sameSettings_setup
  | forward heap output data filters => exact Heap.convolveForward_operator.1
  | dataGradient heap outputGradient filters dataGradient => exact Heap.addDataGradient_operator.1
  | filterGradient heap outputGradient data filterGradient =>
    exact Heap.assignFilterGradient_operator.1
  | clear => exact ⟨rfl, rfl⟩

theorem Derived.call {operator : Operator α} (derived : operator.Derived) (request : Call α) :
    (operator.call request).Derived := by
  cases request with
  | setup heap regular allocator data filters stride =>
    exact derived.setup (regular data).rowMajor (regular filters).rowMajor
  | forward heap output data filters => exact Heap.convolveForward_operator.2 derived
  | dataGradient heap outputGradient filters dataGradient =>
    exact Heap.addDataGradient_operator.2 derived
  | filterGradient heap outputGradient data filterGradient =>
    exact Heap.assignFilterGradient_operator.2 derived
  | clear => exact derived_released operator

theorem derived_after (config : EngineConfig) (history : List (Call α)) (counting : Counting) :
    (after config history counting).SameSettings (new config counting) ∧
      (after config history counting).Derived := by
  -- Over any start, since the first call of a history moves it.
  have run : ∀ operator : Operator α, operator.Derived →
      (history.foldl call operator).SameSettings operator ∧
        (history.foldl call operator).Derived := by
    induction history with
    | nil => exact fun operator derived => ⟨.refl operator, derived⟩
    | cons request rest ih =>
      intro operator derived
      obtain ⟨settings, kept⟩ := ih (operator.call request) (derived.call request)
      exact ⟨settings.trans (sameSettings_call operator request), kept⟩
  exact run (new config counting) nofun

end Operator

end Conv

end TensorEngine

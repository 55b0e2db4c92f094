import TensorEngine.Proofs.Conv.Correlation
import TensorEngine.Proofs.Conv.Destination
import TensorEngine.Proofs.Heap.Landing

/-! What the convolution passes do to the tensors and to the operator. Once the checks
are passed the operands fit, so the pass answers, whatever the scalars are. -/

set_option autoImplicit false

namespace TensorEngine

open TensorEngine.Conv

variable {α : Type}

/-- What the kernel of a pass leaves, with the algorithm and the workspace of the plan. -/
def Conv.Plan.kernel [Zero α] [One α] [Add α] [Mul α] [MatrixProduct α] (plan : Plan α)
    (pass : Pass) (target first second : Array α) : Run α :=
  run pass (plan.passes.get pass).algorithm plan.geometry
    (plan.passes.get pass).workspace target first second

theorem Conv.Plan.Keyed.counts {plan : Plan α} (keyed : plan.Keyed) :
    plan.geometry.data.count = plan.key.data.count ∧
      plan.geometry.filters.count = plan.key.filters.count := by
  obtain ⟨derived, -⟩ := Geometry.ofLayouts_eq_ok_iff.mp keyed
  rw [derived]
  exact ⟨Layout.count_ofShape _, Layout.count_ofShape _⟩

namespace Heap

variable {heap : Heap α} {operator : Operator α} {plan : Plan α}

theorem foreseen_planFor (operator : Operator α) (pass : Pass) :
    Foreseen (operator.planFor pass) := by
  intro error refused
  unfold Operator.planFor at refused
  split at refused
  · cases refused
  · cases refused
    nofun

theorem foreseen_checkForward (heap : Heap α) (operator : Operator α)
    (output data filters : Handle) :
    Foreseen (heap.checkForward operator output data filters) :=
  Foreseen.bind (foreseen_planFor _ _) fun plan => Foreseen.bind (foreseen_expectShape _ _) fun _ =>
    Foreseen.bind (foreseen_expectShape _ _) fun _ =>
        Foreseen.bind (foreseen_distinct _ _ _) fun _ =>
      Foreseen.bind (foreseen_distinct _ _ _) fun _ => foreseen_ok plan

theorem foreseen_checkDataGradient (heap : Heap α) (operator : Operator α)
    (outputGradient filters dataGradient : Handle) :
    Foreseen (heap.checkDataGradient operator outputGradient filters dataGradient) :=
  Foreseen.bind (foreseen_planFor _ _) fun plan => Foreseen.bind (foreseen_expectShape _ _) fun _ =>
    Foreseen.bind (foreseen_expectShape _ _) fun _ =>
        Foreseen.bind (foreseen_expectShape _ _) fun _ =>
      Foreseen.bind (foreseen_distinct _ _ _) fun _ =>
          Foreseen.bind (foreseen_distinct _ _ _) fun _ =>
        foreseen_ok plan

theorem foreseen_checkFilterGradient (heap : Heap α) (operator : Operator α)
    (outputGradient data filterGradient : Handle) :
    Foreseen (heap.checkFilterGradient operator outputGradient data filterGradient) :=
  Foreseen.bind (foreseen_planFor _ _) fun plan => Foreseen.bind (foreseen_expectShape _ _) fun _ =>
    Foreseen.bind (foreseen_expectShape _ _) fun _ =>
        Foreseen.bind (foreseen_expectShape _ _) fun _ =>
      Foreseen.bind (foreseen_distinct _ _ _) fun _ =>
          Foreseen.bind (foreseen_distinct _ _ _) fun _ =>
        foreseen_ok plan

/-! The operands of a pass whose checks are passed. -/

section

variable (regular : heap.Regular) (keyed : plan.Keyed)

include regular keyed

theorem fits_of_checkForward [Zero α] {output data filters : Handle} (valid : heap.Valid output)
    (checked : heap.checkForward operator output data filters = .ok plan) :
    plan.geometry.Fits .forward ((heap.setSize output plan.geometry.output.dims).state.data output)
      (heap.data data) (heap.data filters) := by
  obtain ⟨-, dataShape, filterShape, -⟩ := checkForward_eq_ok_iff.mp checked
  exact ⟨size_setSize valid _, (regular.size_of_shape dataShape).trans keyed.counts.1.symm,
    (regular.size_of_shape filterShape).trans keyed.counts.2.symm⟩

theorem fits_of_checkDataGradient {outputGradient filters dataGradient : Handle}
    (checked : heap.checkDataGradient operator outputGradient filters dataGradient = .ok plan) :
    plan.geometry.Fits .backwardData (heap.data dataGradient) (heap.data outputGradient)
      (heap.data filters) := by
  obtain ⟨-, outputShape, filterShape, dataShape, -⟩ := checkDataGradient_eq_ok_iff.mp checked
  exact ⟨(regular.size_of_shape dataShape).trans keyed.counts.1.symm,
    regular.size_of_shape outputShape,
    (regular.size_of_shape filterShape).trans keyed.counts.2.symm⟩

theorem fits_of_checkFilterGradient {outputGradient data filterGradient : Handle}
    (checked : heap.checkFilterGradient operator outputGradient data filterGradient = .ok plan) :
    plan.geometry.Fits .backwardFilter (heap.data filterGradient) (heap.data outputGradient)
      (heap.data data) := by
  obtain ⟨-, outputShape, dataShape, filterShape, -⟩ := checkFilterGradient_eq_ok_iff.mp checked
  exact ⟨(regular.size_of_shape filterShape).trans keyed.counts.2.symm,
    regular.size_of_shape outputShape, (regular.size_of_shape dataShape).trans keyed.counts.1.symm⟩

end

section

variable [Zero α] [One α] [Add α] [Mul α] [MatrixProduct α]

theorem convolveForward_cases (heap : Heap α) (operator : Operator α)
    (output data filters : Handle) :
    (∃ error : Error, error.Foreseen ∧
        heap.convolveForward operator output data filters = .refuse (operator, heap) error) ∨
      ∃ plan, heap.checkForward operator output data filters = .ok plan := by
  cases checked : heap.checkForward operator output data filters with
  | error error =>
    refine .inl ⟨error, foreseen_checkForward heap operator output data filters error checked, ?_⟩
    unfold convolveForward
    rw [checked]
  | ok plan => exact .inr ⟨plan, rfl⟩

theorem addDataGradient_cases (heap : Heap α) (operator : Operator α)
    (outputGradient filters dataGradient : Handle) :
    (∃ error : Error, error.Foreseen ∧
        heap.addDataGradient operator outputGradient filters dataGradient =
          .refuse (operator, heap) error) ∨
      ∃ plan, heap.checkDataGradient operator outputGradient filters dataGradient = .ok plan := by
  cases checked : heap.checkDataGradient operator outputGradient filters dataGradient with
  | error error =>
    refine .inl ⟨error, foreseen_checkDataGradient heap operator outputGradient filters dataGradient
      error checked, ?_⟩
    unfold addDataGradient
    rw [checked]
  | ok plan => exact .inr ⟨plan, rfl⟩

theorem assignFilterGradient_cases (heap : Heap α) (operator : Operator α)
    (outputGradient data filterGradient : Handle) :
    (∃ error : Error, error.Foreseen ∧
        heap.assignFilterGradient operator outputGradient data filterGradient =
          .refuse (operator, heap) error) ∨
      ∃ plan, heap.checkFilterGradient operator outputGradient data filterGradient = .ok plan := by
  cases checked : heap.checkFilterGradient operator outputGradient data filterGradient with
  | error error =>
    refine .inl ⟨error, foreseen_checkFilterGradient heap operator outputGradient data
      filterGradient error checked, ?_⟩
    unfold assignFilterGradient
    rw [checked]
  | ok plan => exact .inr ⟨plan, rfl⟩

/-- A pass whose operands fit stores what the kernel leaves in its target. -/
theorem convolve_of_fits (operator : Operator α) (keyed : plan.Keyed) {pass : Pass}
    (served : plan.Served pass) {target first second : Handle} (apart : target ∉ [first, second])
    (fits : plan.geometry.Fits pass (heap.data target) (heap.data first) (heap.data second)) :
    let result := plan.kernel pass (heap.data target) (heap.data first) (heap.data second)
    result.target.size = (heap.data target).size ∧
      heap.convolve operator plan pass target first second =
        ⟨.ok (), (operator.withWorkspace pass result.workspace, heap.store target result.target),
          [.convolved pass (plan.passes.get pass).algorithm]⟩ := by
  intro result
  obtain ⟨answer, size⟩ := run_answers (Geometry.admitted_of_ofLayouts keyed) fits served
  refine ⟨size, ?_⟩
  unfold convolve
  rw [if_neg apart, ← answer]
  rfl

theorem served_of_convolve (keyed : plan.Keyed) {pass : Pass} {target first second : Handle}
    (fits : plan.geometry.Fits pass (heap.data target) (heap.data first) (heap.data second))
    (answered : (heap.convolve operator plan pass target first second).answer = .ok ()) :
    plan.Served pass := by
  unfold convolve at answered
  split at answered
  · cases answered
  · exact served_of_run (Geometry.admitted_of_ofLayouts keyed) fits answered

-- Also when the pass breaks off.
theorem Regular.convolve (regular : heap.Regular) (operator : Operator α) (plan : Plan α)
    (pass : Pass) {target : Handle} (valid : heap.Valid target) (first second : Handle) :
    (heap.convolve operator plan pass target first second).state.2.Regular := by
  unfold Heap.convolve
  split
  · exact regular
  · exact regular.store valid (keepsSizes_run ..).target

section

variable (regular : heap.Regular) (keyed : plan.Keyed)

include regular keyed

-- Resizing touches the output alone, so the operands still fit afterwards.
theorem convolveForward_resizes {output data filters : Handle} (valid : heap.Valid output)
    (checked : heap.checkForward operator output data filters = .ok plan) :
    let resized := (heap.setSize output plan.geometry.output.dims).state
    output ∉ [data, filters] ∧ resized.data data = heap.data data ∧
      resized.data filters = heap.data filters ∧
      plan.geometry.Fits .forward (resized.data output) (resized.data data) (resized.data filters) ∧
      ∃ events, heap.convolveForward operator output data filters =
        (resized.convolve operator plan .forward output data filters).after events := by
  intro resized
  obtain ⟨-, -, -, notData, notFilters⟩ := checkForward_eq_ok_iff.mp checked
  have others := (get_setSize heap valid plan.geometry.output.dims).2
  have keptData : resized.data data = heap.data data :=
    congrArg Tensor.data (others data notData.symm)
  have keptFilters : resized.data filters = heap.data filters :=
    congrArg Tensor.data (others filters notFilters.symm)
  have fits := fits_of_checkForward regular keyed valid checked
  change plan.geometry.Fits .forward (resized.data output) _ _ at fits
  rw [← keptData, ← keptFilters] at fits
  refine ⟨by simpa using ⟨notData, notFilters⟩, keptData, keptFilters, fits, ?_⟩
  unfold convolveForward
  rw [checked]
  dsimp only
  rw [Outcome.andThen_of_ok _ rfl]
  exact ⟨_, rfl⟩

theorem convolveForward_of_checked (served : plan.Served .forward) {output data filters : Handle}
    (valid : heap.Valid output)
    (checked : heap.checkForward operator output data filters = .ok plan) :
    let resized := (heap.setSize output plan.geometry.output.dims).state
    let result := plan.kernel .forward (resized.data output) (heap.data data) (heap.data filters)
    result.target.size = (resized.data output).size ∧
      ∃ after events, heap.convolveForward operator output data filters =
        ⟨.ok (), (after, resized.store output result.target), events⟩ := by
  intro resized result
  obtain ⟨apart, keptData, keptFilters, fits, events, called⟩ :=
    convolveForward_resizes regular keyed valid checked
  obtain ⟨size, ran⟩ := convolve_of_fits operator keyed served apart fits
  rw [keptData, keptFilters] at size ran
  refine ⟨size, ?_⟩
  rw [called, ran]
  exact ⟨_, _, rfl⟩

theorem served_of_convolveForward {output data filters : Handle} (valid : heap.Valid output)
    (checked : heap.checkForward operator output data filters = .ok plan)
    (answered : (heap.convolveForward operator output data filters).answer = .ok ()) :
    plan.Served .forward := by
  obtain ⟨-, -, -, fits, events, called⟩ := convolveForward_resizes regular keyed valid checked
  rw [called] at answered
  exact served_of_convolve keyed fits answered

theorem addDataGradient_of_checked (served : plan.Served .backwardData)
    {outputGradient filters dataGradient : Handle}
    (checked : heap.checkDataGradient operator outputGradient filters dataGradient = .ok plan) :
    let result := plan.kernel .backwardData (heap.data dataGradient) (heap.data outputGradient)
      (heap.data filters)
    result.target.size = (heap.data dataGradient).size ∧
      ∃ after events, heap.addDataGradient operator outputGradient filters dataGradient =
        ⟨.ok (), (after, heap.store dataGradient result.target), events⟩ := by
  intro result
  obtain ⟨-, -, -, -, notFilters, notOutput⟩ := checkDataGradient_eq_ok_iff.mp checked
  obtain ⟨size, called⟩ := convolve_of_fits operator keyed served
    (by simpa using ⟨notOutput, notFilters⟩) (fits_of_checkDataGradient regular keyed checked)
  refine ⟨size, ?_⟩
  unfold addDataGradient
  rw [checked]
  dsimp only
  rw [called]
  exact ⟨_, _, rfl⟩

theorem served_of_addDataGradient {outputGradient filters dataGradient : Handle}
    (checked : heap.checkDataGradient operator outputGradient filters dataGradient = .ok plan)
    (answered : (heap.addDataGradient operator outputGradient filters dataGradient).answer =
      .ok ()) :
    plan.Served .backwardData := by
  unfold addDataGradient at answered
  rw [checked] at answered
  exact served_of_convolve keyed (fits_of_checkDataGradient regular keyed checked) answered

theorem assignFilterGradient_of_checked (served : plan.Served .backwardFilter)
    {outputGradient data filterGradient : Handle}
    (checked : heap.checkFilterGradient operator outputGradient data filterGradient = .ok plan) :
    let result := plan.kernel .backwardFilter (heap.data filterGradient)
      (heap.data outputGradient) (heap.data data)
    result.target.size = (heap.data filterGradient).size ∧
      ∃ after events, heap.assignFilterGradient operator outputGradient data filterGradient =
        ⟨.ok (), (after, heap.store filterGradient result.target), events⟩ := by
  intro result
  obtain ⟨-, -, -, -, notData, notOutput⟩ := checkFilterGradient_eq_ok_iff.mp checked
  obtain ⟨size, called⟩ := convolve_of_fits operator keyed served
    (by simpa using ⟨notOutput, notData⟩) (fits_of_checkFilterGradient regular keyed checked)
  refine ⟨size, ?_⟩
  unfold assignFilterGradient
  rw [checked]
  dsimp only
  rw [called]
  exact ⟨_, _, rfl⟩

theorem served_of_assignFilterGradient {outputGradient data filterGradient : Handle}
    (checked : heap.checkFilterGradient operator outputGradient data filterGradient = .ok plan)
    (answered : (heap.assignFilterGradient operator outputGradient data filterGradient).answer =
      .ok ()) :
    plan.Served .backwardFilter := by
  unfold assignFilterGradient at answered
  rw [checked] at answered
  exact served_of_convolve keyed (fits_of_checkFilterGradient regular keyed checked) answered

end

/-! Tensors stay regular, whatever a call answers. -/

section

variable (regular : heap.Regular)

include regular

theorem Regular.convolveForward {output : Handle} (valid : heap.Valid output)
    (data filters : Handle) :
    (heap.convolveForward operator output data filters).state.2.Regular := by
  unfold Heap.convolveForward
  cases heap.checkForward operator output data filters with
  | error error => exact regular
  | ok plan =>
    dsimp only
    rw [Outcome.andThen_of_ok _ rfl]
    exact (regular.setSize valid plan.geometry.output.dims).convolve operator plan .forward
      (valid_put.mpr valid) data filters

theorem Regular.addDataGradient (outputGradient filters : Handle) {dataGradient : Handle}
    (valid : heap.Valid dataGradient) :
    (heap.addDataGradient operator outputGradient filters dataGradient).state.2.Regular := by
  unfold Heap.addDataGradient
  cases heap.checkDataGradient operator outputGradient filters dataGradient with
  | error error => exact regular
  | ok plan => exact regular.convolve operator plan .backwardData valid outputGradient filters

theorem Regular.assignFilterGradient (outputGradient data : Handle) {filterGradient : Handle}
    (valid : heap.Valid filterGradient) :
    (heap.assignFilterGradient operator outputGradient data filterGradient).state.2.Regular := by
  unfold Heap.assignFilterGradient
  cases heap.checkFilterGradient operator outputGradient data filterGradient with
  | error error => exact regular
  | ok plan => exact regular.convolve operator plan .backwardFilter valid outputGradient data

end

/-! Where column matrices are counted as they are, a call is refused before it changes
anything, or it answers. -/

variable (regular : heap.Regular) (derived : operator.Derived)
  (counted : operator.Counted operator.counting)

include regular derived counted

theorem lands_convolveForward {output : Handle} (valid : heap.Valid output)
    (data filters : Handle) :
    Lands Prod.snd (operator, heap) output (heap.convolveForward operator output data filters) := by
  obtain ⟨error, foreseen, refused⟩ | ⟨plan, checked⟩ :=
    heap.convolveForward_cases operator output data filters
  · rw [refused]
    exact .refused foreseen
  · have planned := (checkForward_eq_ok_iff.mp checked).1
    have sound := derived plan planned
    obtain ⟨size, after, events, called⟩ := convolveForward_of_checked regular sound.keyed
      (sound.served (counted plan planned) .forward) valid checked
    rw [called]
    exact .written ((regular.setSize valid _ output).withData size) (put_put heap output _ _)

theorem lands_addDataGradient (outputGradient filters dataGradient : Handle) :
    Lands Prod.snd (operator, heap) dataGradient
      (heap.addDataGradient operator outputGradient filters dataGradient) := by
  obtain ⟨error, foreseen, refused⟩ | ⟨plan, checked⟩ :=
    heap.addDataGradient_cases operator outputGradient filters dataGradient
  · rw [refused]
    exact .refused foreseen
  · have planned := (checkDataGradient_eq_ok_iff.mp checked).1
    have sound := derived plan planned
    obtain ⟨size, after, events, called⟩ := addDataGradient_of_checked regular sound.keyed
      (sound.served (counted plan planned) .backwardData) checked
    rw [called]
    exact .written ((regular dataGradient).withData size) rfl

theorem lands_assignFilterGradient (outputGradient data filterGradient : Handle) :
    Lands Prod.snd (operator, heap) filterGradient
      (heap.assignFilterGradient operator outputGradient data filterGradient) := by
  obtain ⟨error, foreseen, refused⟩ | ⟨plan, checked⟩ :=
    heap.assignFilterGradient_cases operator outputGradient data filterGradient
  · rw [refused]
    exact .refused foreseen
  · have planned := (checkFilterGradient_eq_ok_iff.mp checked).1
    have sound := derived plan planned
    obtain ⟨size, after, events, called⟩ := assignFilterGradient_of_checked regular sound.keyed
      (sound.served (counted plan planned) .backwardFilter) checked
    rw [called]
    exact .written ((regular filterGradient).withData size) rfl

end

end Heap

end TensorEngine

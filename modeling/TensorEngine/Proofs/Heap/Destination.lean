import TensorEngine.Proofs.Heap.Passes
import TensorEngine.Proofs.Heap.Pooling

/-! What calls make of a destination. A call is run on two heaps that differ in its
destination alone. Calls that assign leave the same tensor there; calls that add move
every element by the same amount. -/

set_option autoImplicit false

namespace TensorEngine

open TensorEngine.Conv

variable {α σ : Type}

namespace Heap

/-- Two heaps that differ in one tensor at most. -/
structure DifferAt (dest : Handle) (one other : Heap α) : Prop where
  regular : one.Regular
  otherRegular : other.Regular
  valid : one.Valid dest
  otherValid : other.Valid dest
  others : ∀ handle, handle ≠ dest → one.get handle = other.get handle

theorem Regular.differAt {heap : Heap α} (regular : heap.Regular) {dest : Handle}
    (valid : heap.Valid dest) {one other : Tensor α} (new : one.Regular)
    (otherNew : other.Regular) :
    DifferAt dest (heap.put dest one) (heap.put dest other) where
  regular := regular.put valid new
  otherRegular := regular.put valid otherNew
  valid := valid_put.mpr valid
  otherValid := valid_put.mpr valid
  others handle different := by
    rw [get_put heap dest handle one valid, get_put heap dest handle other valid, if_neg different,
      if_neg different]

/-- Both calls answer and leave one and the same tensor in the destination. -/
structure AssignAlike (tensors : σ → Heap α) (dest : Handle)
    (one other : Outcome σ (Event α) Unit) : Prop where
  answer : other.answer = .ok ()
  tensor : (tensors one.state).get dest = (tensors other.state).get dest

/-- Both calls answer, keep the shape of the destination and add the same to its elements. -/
structure AddAlike [AddGroup α] (tensors : σ → Heap α) (dest : Handle) (before otherBefore : Heap α)
    (one other : Outcome σ (Event α) Unit) : Prop where
  answer : other.answer = .ok ()
  shape : (tensors one.state).shape dest = before.shape dest
  otherShape : (tensors other.state).shape dest = otherBefore.shape dest
  increments : ∀ i < (before.data dest).size,
    Buffer.increment (before.data dest) ((tensors one.state).data dest) i =
      Buffer.increment (otherBefore.data dest) ((tensors other.state).data dest) i

theorem get_store_setSize [Zero α] {heap : Heap α} {dest : Handle} (valid : heap.Valid dest)
    (shape : Shape) (data : Array α) :
    ((heap.setSize dest shape).state.store dest data).get dest = ⟨⟨.ofShape shape⟩, data⟩ := by
  have resized := get_put_self valid
    ⟨(heap.get dest).descriptor.setSize shape, resized (heap.get dest).data shape.collapse.count⟩
  exact (get_store_self (valid_put.mpr valid) data).trans
    (congrArg (fun tensor : Tensor α => Tensor.mk tensor.descriptor data) resized)

namespace DifferAt

variable {dest : Handle} {one other : Heap α} (differ : DifferAt dest one other)

include differ

theorem data_eq {handle : Handle} (different : handle ≠ dest) :
    one.data handle = other.data handle :=
  congrArg Tensor.data (differ.others handle different)

theorem shape_eq {handle : Handle} (different : handle ≠ dest) :
    one.shape handle = other.shape handle :=
  congrArg Tensor.shape (differ.others handle different)

-- With one shape in the destination all layouts are the same.
theorem layout_eq (same : one.shape dest = other.shape dest) (handle : Handle) :
    one.layout handle = other.layout handle := by
  by_cases different : handle ≠ dest
  · exact congrArg Tensor.layout (differ.others handle different)
  · rw [not_not.mp different]
    exact (differ.regular dest).rowMajor.trans
      ((congrArg Layout.ofShape same).trans (differ.otherRegular dest).rowMajor.symm)

theorem size_eq (same : one.shape dest = other.shape dest) :
    (one.data dest).size = (other.data dest).size :=
  (differ.regular.size_of_shape same).trans (differ.otherRegular.size_of_shape rfl).symm

theorem get_store_eq (same : one.shape dest = other.shape dest) (data : Array α) :
    (one.store dest data).get dest = (other.store dest data).get dest := by
  rw [get_store_self differ.valid, get_store_self differ.otherValid]
  exact congrArg (fun layout => Tensor.mk ⟨layout⟩ data) (differ.layout_eq same dest)

theorem addAlike_store [AddGroup α] {tensors : σ → Heap α} {after otherAfter : σ}
    {events otherEvents : List (Event α)} {result otherResult : Array α}
    (moved : tensors after = one.store dest result)
    (otherMoved : tensors otherAfter = other.store dest otherResult)
    (increments : ∀ i < (one.data dest).size, Buffer.increment (one.data dest) result i =
      Buffer.increment (other.data dest) otherResult i) :
    AddAlike tensors dest one other ⟨.ok (), after, events⟩ ⟨.ok (), otherAfter, otherEvents⟩ where
  answer := rfl
  shape := (congrArg (Heap.shape · dest) moved).trans
    (congrArg Layout.dims (layout_store one dest dest result differ.valid))
  otherShape := (congrArg (Heap.shape · dest) otherMoved).trans
    (congrArg Layout.dims (layout_store other dest dest otherResult differ.otherValid))
  increments i inside := by
    dsimp only
    rw [moved, otherMoved, data_store one dest dest result differ.valid,
      data_store other dest dest otherResult differ.otherValid, if_pos rfl, if_pos rfl]
    exact increments i inside

/-! Calls that assign. -/

theorem add [Zero α] [Add α] [Mul α] [BEq α] (same : one.shape dest = other.shape dest)
    {beta alpha : α} (none : (beta == 0) = true) {src : Handle}
    (answered : (one.add beta dest alpha src : Outcome (Heap α) (Event α) Unit).answer = .ok ()) :
    AssignAlike id dest (one.add beta dest alpha src) (other.add beta dest alpha src) := by
  obtain ⟨_, -, refused⟩ | checked := one.add_cases beta dest alpha src
  · rw [refused] at answered
    cases answered
  · obtain ⟨apart, compatible⟩ := checkAdd_eq_ok_iff.mp checked
    have otherChecked : other.checkAdd dest src = .ok () := by
      rw [checkAdd_eq_ok_iff, ← same, ← differ.shape_eq apart.symm]
      exact ⟨apart, compatible⟩
    obtain ⟨result, ran, -⟩ := Elementwise.addScaled_answers beta alpha
      (differ.regular dest).size (differ.regular src).size compatible
    have otherRan : Elementwise.addScaled beta (other.data dest) (other.layout dest) alpha
        (other.data src)
          (other.layout src) = .ok result := by
      rw [← Elementwise.addScaled_congr none (differ.size_eq same), ← differ.layout_eq same,
        ← differ.layout_eq same, ← differ.data_eq apart.symm]
      exact ran
    obtain ⟨_, called⟩ := add_of_checked checked ran
    obtain ⟨_, otherCalled⟩ := add_of_checked otherChecked otherRan
    rw [called, otherCalled]
    exact ⟨rfl, differ.get_store_eq same result⟩

section

variable [Zero α] [One α] [Add α] [Sub α] [LE α] [DecidableLE α]

theorem activate [Neg α] [Div α] [LT α] [DecidableLT α] [Elementary α]
    (same : one.shape dest = other.shape dest) {activation : Activation} {src : Handle}
    (apart : dest ≠ src)
    (answered : (one.activate activation dest src : Outcome (Heap α) (Event α) Unit).answer =
      .ok ()) :
    AssignAlike id dest (one.activate activation dest src)
      (other.activate activation dest src) := by
  obtain ⟨_, -, refused⟩ | shape := one.activate_cases activation dest src
  · rw [refused] at answered
    cases answered
  · have otherShape : other.shape dest = other.shape src := by
      rw [← same, shape, differ.shape_eq apart.symm]
    obtain ⟨result, ran, -⟩ := activation.apply_answers
        ((data_size_eq differ.regular shape).symm.trans (differ.regular dest).size)
    have otherRan : activation.apply (other.data src) (other.layout dest) = .ok result := by
      rw [← differ.data_eq apart.symm, ← differ.layout_eq same]
      exact ran
    obtain ⟨_, called⟩ := activate_of_eq_ok differ.regular differ.valid shape ran
    obtain ⟨_, otherCalled⟩ :=
      activate_of_eq_ok differ.otherRegular differ.otherValid otherShape otherRan
    rw [called, otherCalled]
    exact ⟨rfl, differ.get_store_eq same result⟩

theorem activationGradient [Mul α] (same : one.shape dest = other.shape dest)
    {activation : Activation} {outputs outputGradient : Handle} (apart : dest ≠ outputGradient)
    (answered : (one.activationGradient activation dest outputs outputGradient : Outcome (Heap α)
      (Event α) Unit).answer = .ok ()) :
    AssignAlike id dest (one.activationGradient activation dest outputs outputGradient)
      (other.activationGradient activation dest outputs outputGradient) := by
  obtain ⟨_, -, refused⟩ | checked :=
    one.activationGradient_cases activation dest outputs outputGradient
  · rw [refused] at answered
    cases answered
  · obtain ⟨outputShape, shape, notOutputs⟩ := checkGradient_eq_ok_iff.mp checked
    have otherChecked : other.checkGradient activation dest outputs outputGradient = .ok () := by
      rw [checkGradient_eq_ok_iff, ← same, ← differ.shape_eq apart.symm,
        ← differ.shape_eq notOutputs.symm]
      exact ⟨outputShape, shape, notOutputs⟩
    obtain ⟨result, ran, -⟩ := activation.gradient_answers
      ((data_size_eq differ.regular outputShape).trans (differ.regular outputs).size)
        (differ.regular outputs).size
    have otherRan : activation.gradient (other.data outputGradient) (other.data outputs)
        (other.layout outputs) = .ok result := by
      rw [← differ.data_eq apart.symm, ← differ.data_eq notOutputs.symm, ← differ.layout_eq same]
      exact ran
    obtain ⟨_, called⟩ := activationGradient_of_eq_ok differ.regular differ.valid checked ran
    obtain ⟨_, otherCalled⟩ :=
      activationGradient_of_eq_ok differ.otherRegular differ.otherValid otherChecked otherRan
    rw [called, otherCalled]
    exact ⟨rfl, differ.get_store_eq same result⟩

end

section

open Pool

-- Resized first, so that not even the previous shape is of any account.
theorem pool [Zero α] [Lowest α] [LT α] [DecidableLT α] {operator : Pool.Operator}
    (sound : operator.Sound) {src : Handle}
    (answered : (one.pool operator dest src : Outcome (Heap α) (Event α) Unit).answer = .ok ()) :
    AssignAlike id dest (one.pool operator dest src) (other.pool operator dest src) := by
  obtain ⟨error, refused, -⟩ | ⟨geometry, checked, apart, source, admitted⟩ :=
    decides_checkPool differ.regular sound dest src
  · unfold Heap.pool at answered
    rw [refused] at answered
    cases answered
  · have layout : one.layout src = other.layout src :=
      congrArg Tensor.layout (differ.others src apart.symm)
    have otherChecked : other.checkPool operator dest src = .ok geometry := by
      unfold checkPool
      rw [← layout]
      exact checked
    have size := size_setSize differ.valid geometry.dest.dims
    have otherSize := size_setSize differ.otherValid geometry.dest.dims
    obtain ⟨result, ran, -⟩ := maxForward_answers admitted size
      ((differ.regular src).size.trans (congrArg Layout.count source.symm))
    have otherRan : maxForward geometry ((other.setSize dest geometry.dest.dims).state.data dest)
        (other.data src) = some result := by
      rw [← maxForward_congr admitted.dest_plane_pos (size.trans otherSize.symm),
        ← differ.data_eq apart.symm]
      exact ran
    obtain ⟨_, called⟩ := pool_of_checked differ.valid checked apart ran
    obtain ⟨_, otherCalled⟩ := pool_of_checked differ.otherValid otherChecked apart otherRan
    rw [called, otherCalled]
    exact ⟨rfl, (get_store_setSize differ.valid _ result).trans
      (get_store_setSize differ.otherValid _ result).symm⟩

end

section

variable [Zero α] [One α] [Add α] [Mul α] [MatrixProduct α] [MatrixProduct.Assigning α]
  {operator : Operator α} (derived : operator.Derived)

include derived

theorem convolveForward {data filters : Handle}
    (answered : (one.convolveForward operator dest data filters).answer = .ok ()) :
    AssignAlike Prod.snd dest (one.convolveForward operator dest data filters)
      (other.convolveForward operator dest data filters) := by
  obtain ⟨_, -, refused⟩ | ⟨plan, checked⟩ := one.convolveForward_cases operator dest data filters
  · rw [refused] at answered
    cases answered
  · obtain ⟨planned, dataShape, filterShape, notData, notFilters⟩ :=
      checkForward_eq_ok_iff.mp checked
    have otherChecked : other.checkForward operator dest data filters = .ok plan := by
      rw [checkForward_eq_ok_iff, ← differ.shape_eq notData.symm, ← differ.shape_eq notFilters.symm]
      exact ⟨planned, dataShape, filterShape, notData, notFilters⟩
    have keyed := (derived plan planned).keyed
    have served := served_of_convolveForward differ.regular keyed differ.valid checked answered
    obtain ⟨-, _, _, called⟩ :=
      convolveForward_of_checked differ.regular keyed served differ.valid checked
    obtain ⟨-, _, _, otherCalled⟩ :=
      convolveForward_of_checked differ.otherRegular keyed served differ.otherValid otherChecked
    have fits := fits_of_checkForward differ.regular keyed differ.valid checked
    have otherFits := fits_of_checkForward differ.otherRegular keyed differ.otherValid otherChecked
    rw [← differ.data_eq notData.symm, ← differ.data_eq notFilters.symm] at otherFits
    rw [← differ.data_eq notData.symm, ← differ.data_eq notFilters.symm] at otherCalled
    have result :=
      run_assigns (Geometry.admitted_of_ofLayouts keyed) (by decide) fits otherFits served
    rw [called, otherCalled]
    exact ⟨rfl, (get_store_setSize differ.valid _ _).trans
      ((congrArg _ result).trans (get_store_setSize differ.otherValid _ _).symm)⟩

theorem assignFilterGradient (same : one.shape dest = other.shape dest)
    {outputGradient data : Handle}
    (answered : (one.assignFilterGradient operator outputGradient data dest).answer = .ok ()) :
    AssignAlike Prod.snd dest (one.assignFilterGradient operator outputGradient data dest)
      (other.assignFilterGradient operator outputGradient data dest) := by
  obtain ⟨_, -, refused⟩ | ⟨plan, checked⟩ :=
    one.assignFilterGradient_cases operator outputGradient data dest
  · rw [refused] at answered
    cases answered
  · obtain ⟨planned, outputShape, dataShape, filterShape, notData, notOutput⟩ :=
      checkFilterGradient_eq_ok_iff.mp checked
    have otherChecked : other.checkFilterGradient operator outputGradient data dest = .ok plan := by
      rw [checkFilterGradient_eq_ok_iff, ← differ.shape_eq notOutput.symm,
        ← differ.shape_eq notData.symm, ← same]
      exact ⟨planned, outputShape, dataShape, filterShape, notData, notOutput⟩
    have keyed := (derived plan planned).keyed
    have served := served_of_assignFilterGradient differ.regular keyed checked answered
    obtain ⟨-, _, _, called⟩ := assignFilterGradient_of_checked differ.regular keyed served checked
    obtain ⟨-, _, _, otherCalled⟩ :=
      assignFilterGradient_of_checked differ.otherRegular keyed served otherChecked
    have fits := fits_of_checkFilterGradient differ.regular keyed checked
    have otherFits := fits_of_checkFilterGradient differ.otherRegular keyed otherChecked
    rw [← differ.data_eq notOutput.symm, ← differ.data_eq notData.symm] at otherFits otherCalled
    have result : (plan.kernel .backwardFilter (one.data dest) (one.data outputGradient)
        (one.data data)).target =
          (plan.kernel .backwardFilter (other.data dest) (one.data outputGradient)
            (one.data data)).target :=
      run_assigns (Geometry.admitted_of_ofLayouts keyed) (by decide) fits otherFits served
    rw [called, otherCalled, ← result]
    exact ⟨rfl, differ.get_store_eq same _⟩

end

/-! Calls that add, in exact arithmetic. -/

section

variable [AddCommGroup α]

theorem addBiasGradient (same : one.shape dest = other.shape dest) {gradient : Handle}
    (answered : (one.addBiasGradient dest gradient : Outcome (Heap α) (Event α) Unit).answer =
      .ok ()) :
    AddAlike id dest one other (one.addBiasGradient dest gradient)
      (other.addBiasGradient dest gradient) := by
  obtain ⟨_, -, refused⟩ | checked := one.addBiasGradient_cases dest gradient
  · rw [refused] at answered
    cases answered
  · obtain ⟨apart, holds, shape⟩ := checkBiasGradient_eq_ok_iff.mp checked
    have otherChecked : other.checkBiasGradient dest gradient = .ok () := by
      rw [checkBiasGradient_eq_ok_iff, ← same, ← differ.layout_eq same,
        ← differ.shape_eq apart.symm]
      exact ⟨apart, holds, shape⟩
    obtain ⟨_, called⟩ := addBiasGradient_of_checked differ.regular checked
    obtain ⟨_, otherCalled⟩ := addBiasGradient_of_checked differ.otherRegular otherChecked
    rw [← differ.data_eq apart.symm, ← differ.layout_eq same] at otherCalled
    rw [called, otherCalled]
    refine differ.addAlike_store rfl rfl fun i inside => ?_
    exact (Buffer.increment_cells _ inside).trans
      (Buffer.increment_cells _ (differ.size_eq same ▸ inside)).symm

theorem addPoolGradient [Pool.Lowest α] [LT α] [DecidableLT α] [BEq α] {operator : Pool.Operator}
    (sound : operator.Sound) (same : one.shape dest = other.shape dest)
    {outputGradient outputs src : Handle}
    (answered : (one.addPoolGradient operator outputGradient outputs src dest : Outcome (Heap α)
      (Event α) Unit).answer = .ok ()) :
    AddAlike id dest one other (one.addPoolGradient operator outputGradient outputs src dest)
      (other.addPoolGradient operator outputGradient outputs src dest) := by
  obtain ⟨error, refused, -⟩ | ⟨geometry, checked, apart, source, admitted, outputsShape,
      outputShape, shape⟩ :=
    decides_checkPoolGradient differ.regular sound outputGradient outputs src dest
  · unfold Heap.addPoolGradient at answered
    rw [refused] at answered
    cases answered
  · have otherChecked : other.checkPoolGradient operator outputGradient outputs src dest =
        .ok geometry := by
      have shapes := fun handle => congrArg Layout.dims (differ.layout_eq same handle)
      change ∀ handle, one.shape handle = other.shape handle at shapes
      unfold checkPoolGradient
      rw [← differ.layout_eq same, ← shapes, ← shapes, ← shapes, ← shapes]
      exact checked
    have srcSize := (differ.regular src).size.trans (congrArg Layout.count source.symm)
    have outputsSize : (one.data outputs).size = geometry.dest.count :=
      differ.regular.size_of_shape outputsShape
    obtain ⟨share, ran⟩ := Pool.maxBackward_adds admitted
      ((data_size_eq differ.regular outputShape).trans outputsSize) outputsSize srcSize
    have size := (data_size_eq differ.regular shape).trans srcSize
    have otherRan := ran (other.data dest) ((differ.size_eq same).symm.trans size)
    simp only [List.mem_cons, List.not_mem_nil, or_false, not_or] at apart
    obtain ⟨notOutput, notOutputs, notSrc⟩ := apart
    change Pool.maxBackward geometry _ (one.data outputGradient) (one.data outputs) (one.data src) =
      _ at otherRan
    rw [differ.data_eq (Ne.symm notOutput), differ.data_eq (Ne.symm notOutputs),
      differ.data_eq (Ne.symm notSrc)] at otherRan
    have separate : dest ∉ [outputGradient, outputs, src] := by simp [notOutput, notOutputs, notSrc]
    obtain ⟨_, called⟩ := addPoolGradient_of_checked checked separate (ran (one.data dest) size)
    obtain ⟨_, otherCalled⟩ := addPoolGradient_of_checked otherChecked separate otherRan
    rw [called, otherCalled]
    refine differ.addAlike_store rfl rfl fun i inside => ?_
    exact (Buffer.increment_cells _ inside).trans
      (Buffer.increment_cells _ (differ.size_eq same ▸ inside)).symm

theorem addDataGradient [One α] [Mul α] [MatrixProduct α] {operator : Operator α}
    (derived : operator.Derived) (same : one.shape dest = other.shape dest)
    {outputGradient filters : Handle}
    (answered : (one.addDataGradient operator outputGradient filters dest).answer = .ok ()) :
    AddAlike Prod.snd dest one other (one.addDataGradient operator outputGradient filters dest)
      (other.addDataGradient operator outputGradient filters dest) := by
  obtain ⟨_, -, refused⟩ | ⟨plan, checked⟩ :=
    one.addDataGradient_cases operator outputGradient filters dest
  · rw [refused] at answered
    cases answered
  · obtain ⟨planned, outputShape, filterShape, dataShape, notFilters, notOutput⟩ :=
      checkDataGradient_eq_ok_iff.mp checked
    have otherChecked : other.checkDataGradient operator outputGradient filters dest =
        .ok plan := by
      rw [checkDataGradient_eq_ok_iff, ← differ.shape_eq notOutput.symm,
        ← differ.shape_eq notFilters.symm, ← same]
      exact ⟨planned, outputShape, filterShape, dataShape, notFilters, notOutput⟩
    have keyed := (derived plan planned).keyed
    have served := served_of_addDataGradient differ.regular keyed checked answered
    obtain ⟨-, _, _, called⟩ := addDataGradient_of_checked differ.regular keyed served checked
    obtain ⟨-, _, _, otherCalled⟩ :=
      addDataGradient_of_checked differ.otherRegular keyed served otherChecked
    have fits := fits_of_checkDataGradient differ.regular keyed checked
    have otherFits := fits_of_checkDataGradient differ.otherRegular keyed otherChecked
    rw [← differ.data_eq notOutput.symm, ← differ.data_eq notFilters.symm] at otherFits otherCalled
    rw [called, otherCalled]
    exact differ.addAlike_store rfl rfl fun i inside =>
      run_adds (Geometry.admitted_of_ofLayouts keyed) fits otherFits served
        (Nat.lt_of_lt_of_eq inside fits.target)

end

end DifferAt

end Heap

end TensorEngine

import TensorEngine.Proofs.Activation.Derivative
import TensorEngine.Proofs.Heap.Landing

/-! An activation call followed by its gradient call, on tensors of real numbers. The
gradient call sees the outputs alone, and what it leaves is the gradient with respect
to the inputs. -/

set_option autoImplicit false

namespace TensorEngine.Heap

open Buffer

section

variable {α : Type} [Zero α] [One α] [Add α] [Sub α] [LE α] [DecidableLE α] {heap : Heap α}
  {activation : Activation} {dest src gradient outputGradient : Handle} (regular : heap.Regular)
  (valid : heap.Valid dest) (shape : heap.shape dest = heap.shape src)

include regular valid shape

/-- An activation call whose source has been given other elements before. -/
theorem activate_of_store [Neg α] [Div α] [LT α] [DecidableLT α] [Elementary α]
    (srcValid : heap.Valid src) {inputs outputs : Array α}
    (size : inputs.size = (heap.data src).size)
    (applied : activation.apply inputs (heap.layout dest) = .ok outputs) :
    let called : Outcome (Heap α) (Event α) Unit :=
      (heap.store src inputs).activate activation dest src
    called.answer = .ok () ∧ called.state.data dest = outputs := by
  intro called
  have validAfter : (heap.store src inputs).Valid dest := valid_put.mpr valid
  have shapeAfter : (heap.store src inputs).shape dest = (heap.store src inputs).shape src := by
    rw [shape_store srcValid, shape_store srcValid, shape]
  have appliedAfter : activation.apply ((heap.store src inputs).data src)
      ((heap.store src inputs).layout dest) = .ok outputs := by
    rw [data_store_self srcValid, layout_store heap src dest _ srcValid]
    exact applied
  obtain ⟨answer, after⟩ :=
    activate_stores (regular.store srcValid size) validAfter shapeAfter appliedAfter
  refine ⟨answer, ?_⟩
  rw [after, data_store_self validAfter]

/-- A gradient call on the outputs that an activation has just left. -/
theorem activationGradient_of_store [Mul α] (gradientValid : heap.Valid gradient)
    (outputShape : heap.shape outputGradient = heap.shape src)
    (gradientShape : heap.shape gradient = heap.shape src) (apart : gradient ≠ dest)
    {outputs gradients : Array α} (size : outputs.size = (heap.data dest).size)
    (ran : activation.gradient ((heap.store dest outputs).data outputGradient) outputs
      (heap.layout dest) = .ok gradients) :
    let called : Outcome (Heap α) (Event α) Unit :=
      (heap.store dest outputs).activationGradient activation gradient dest outputGradient
    called.answer = .ok () ∧ called.state.data gradient = gradients := by
  intro called
  have validAfter : (heap.store dest outputs).Valid gradient := valid_put.mpr gradientValid
  have checked : (heap.store dest outputs).checkGradient activation gradient dest outputGradient =
      .ok () := by
    rw [checkGradient_eq_ok_iff, shape_store valid, shape_store valid, shape_store valid]
    exact ⟨outputShape.trans shape.symm, gradientShape.trans shape.symm, apart⟩
  have ranAfter : activation.gradient ((heap.store dest outputs).data outputGradient)
      ((heap.store dest outputs).data dest) ((heap.store dest outputs).layout dest) =
        .ok gradients := by
    rw [data_store_self valid, layout_store heap dest dest outputs valid]
    exact ran
  obtain ⟨answer, after⟩ :=
    activationGradient_stores (regular.store valid size) validAfter checked ranAfter
  refine ⟨answer, ?_⟩
  rw [after, data_store_self validAfter]

end

variable {heap : Heap ℝ} {dest src gradient outputGradient : Handle}

/-- For any direction, the gradient that is left pairs with it to the derivative of the
weighted sum of the outputs along it. The destination of the outputs may be the source,
and the gradient may replace what it is made from. -/
theorem activationGradient_is_derivative (regular : heap.Regular) (activation : Activation)
    (valid : heap.Valid dest) (srcValid : heap.Valid src) (gradientValid : heap.Valid gradient)
    (shape : heap.shape dest = heap.shape src)
    (outputShape : heap.shape outputGradient = heap.shape src)
    (gradientShape : heap.shape gradient = heap.shape src) (apart : gradient ≠ dest)
    (smooth : activation = .relu → ∀ x ∈ heap.data src, x ≠ 0) (direction : Nat → ℝ) :
    let forward : Outcome (Heap ℝ) (Event ℝ) Unit := heap.activate activation dest src
    let backward : Outcome (Heap ℝ) (Event ℝ) Unit :=
      forward.state.activationGradient activation gradient dest outputGradient
    let shifted (t : ℝ) : Outcome (Heap ℝ) (Event ℝ) Unit :=
      (heap.store src (moved (heap.data src) direction t)).activate activation dest src
    let weights := forward.state.data outputGradient
    let indices := Finset.range (heap.shape src).count
    forward.answer = .ok () ∧ backward.answer = .ok () ∧ (∀ t, (shifted t).answer = .ok ()) ∧
      HasDerivAt (fun t => ∑ i ∈ indices, cell weights i * cell ((shifted t).state.data dest) i)
        (∑ i ∈ indices, cell (backward.state.data gradient) i * direction i) 0 := by
  intro forward backward shifted weights indices
  have size : (heap.data src).size = (heap.layout dest).count := regular.size_of_shape shape.symm
  obtain ⟨result, applied, resultSize⟩ := activation.apply_answers size
  have resultFits : result.size = (heap.data dest).size :=
    resultSize.trans (data_size_eq regular shape).symm
  obtain ⟨answer, after⟩ := activate_stores regular valid shape applied
  change forward.state = heap.store dest result at after
  have weightsSize : weights.size = (heap.layout dest).count := by
    change (forward.state.data outputGradient).size = _
    rw [after]
    exact (regular.store valid resultFits).size_of_shape
      ((shape_store valid _ _).trans (outputShape.trans shape.symm))
  obtain ⟨outputs, gradients, along, ran, differentiable⟩ :=
    activation.gradient_hasDerivAt (regular dest).rowMajor size weightsSize smooth direction
  have start : outputs 0 = result := by
    have both := along 0
    rw [Activation.moved_zero] at both
    exact Except.ok.inj (both.symm.trans applied)
  -- What the gradient call reads is what the forward call left.
  have backwards : backward.answer = .ok () ∧ backward.state.data gradient = gradients := by
    change activation.gradient (forward.state.data outputGradient) _ _ = _ at ran
    rw [start, after] at ran
    change (forward.state.activationGradient activation gradient dest outputGradient).answer = _ ∧
      (forward.state.activationGradient activation gradient dest outputGradient).state.data
        gradient = _
    rw [after]
    exact activationGradient_of_store regular valid shape gradientValid outputShape gradientShape
      apart resultFits ran
  have moves (t : ℝ) : (shifted t).answer = .ok () ∧ (shifted t).state.data dest = outputs t :=
    activate_of_store regular valid shape srcValid (size_cells ..) (along t)
  have count : (heap.data src).size = (heap.shape src).count := (regular src).size
  rw [count] at differentiable
  refine ⟨answer, backwards.1, fun t => (moves t).1, ?_⟩
  simp only [backwards.2, (moves _).2]
  exact differentiable

-- Rectified in place, and the gradient replaces what it is made from.
theorem activationGradient_is_derivative_rectified :
    let created : Heap ℝ :=
      ((Heap.empty.create #[2, -3] ⟨1, 2, 1, 1⟩).state.create #[5, 7] ⟨1, 2, 1, 1⟩).state
    let forward : Outcome (Heap ℝ) (Event ℝ) Unit := created.activate .relu ⟨0⟩ ⟨0⟩
    let backward : Outcome (Heap ℝ) (Event ℝ) Unit :=
      forward.state.activationGradient .relu ⟨1⟩ ⟨0⟩ ⟨1⟩
    let shifted (t : ℝ) : Outcome (Heap ℝ) (Event ℝ) Unit :=
      (created.store ⟨0⟩ (moved #[2, -3] (fun _ => 1) t)).activate .relu ⟨0⟩ ⟨0⟩
    backward.answer = .ok () ∧
      HasDerivAt (fun t => ∑ i ∈ Finset.range 2,
        cell #[5, 7] i * cell ((shifted t).state.data ⟨0⟩) i)
        (∑ i ∈ Finset.range 2, cell (backward.state.data ⟨1⟩) i * 1) 0 := by
  intro created forward backward shifted
  have regular : created.Regular := (Heap.regular_empty.create _ _).create _ _
  have smooth : Activation.relu = .relu → ∀ x ∈ created.data ⟨0⟩, x ≠ 0 := by
    intro _ x member
    have listed : x ∈ #[(2 : ℝ), -3] := member
    rcases (by simpa using listed : x = 2 ∨ x = -3) with rfl | rfl <;> norm_num
  have valid : created.Valid ⟨0⟩ := by decide
  have gradientValid : created.Valid ⟨1⟩ := by decide
  have same : created.shape ⟨1⟩ = created.shape ⟨0⟩ := rfl
  obtain ⟨-, answer, -, differentiable⟩ :=
    activationGradient_is_derivative regular .relu valid valid gradientValid rfl
    same same (by decide) smooth fun _ => 1
  exact ⟨answer, differentiable⟩

end TensorEngine.Heap

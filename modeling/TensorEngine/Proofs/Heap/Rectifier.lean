import TensorEngine.Proofs.Comparison
import TensorEngine.Proofs.Heap.Aliasing

/-! The gradient of rectified outputs. The kernel blocks the gradient where the output is at
most zero and passes it on everywhere else: among floats, where the output is positive, and
where it is NaN, which is neither. -/

set_option autoImplicit false

namespace TensorEngine

-- Numbers always compare, and NaN compares with nothing.
theorem float32_not_le_iff {a b : Float32} (number : b.isNaN = false) :
    ¬ a ≤ b ↔ b < a ∨ a.isNaN = true := by
  constructor
  · intro notLe
    cases nan : a.isNaN with
    | true => exact .inr rfl
    | false =>
      refine .inl (not_not.mp fun notLess => notLe ?_)
      exact float32_le_of_not_lt number nan notLess
  · intro above le
    obtain ⟨r, ofA, s, ofB, below⟩ := float32_le_iff.mp le
    rcases above with less | nan
    · obtain ⟨t, alsoB, u, alsoA, higher⟩ := float32_lt_iff.mp less
      obtain rfl := Option.mem_unique ofA alsoA
      obtain rfl := Option.mem_unique ofB alsoB
      exact absurd higher (not_lt.mpr below)
    · have equal := float32_beq_self_iff.mp (float32_beq_iff.mpr ⟨r, ofA, ofA⟩)
      exact Bool.false_ne_true (equal.symm.trans nan)

theorem float32_not_le_zero_iff (output : Float32) :
    ¬ output ≤ 0 ↔ 0 < output ∨ output.isNaN = true :=
  float32_not_le_iff (by decide)

namespace Activation

open Buffer

variable {α : Type} [Zero α] [LE α] [DecidableLE α]

/-- The gradient of the inputs of a rectifier, from that of its outputs. -/
def passed (outputs gradients : Array α) : Array α :=
  cells outputs.size fun i => if cell outputs i ≤ 0 then 0 else cell gradients i

theorem gradient_relu_eq [One α] [Add α] [Sub α] [Mul α] {gradients outputs : Array α}
    (size : gradients.size = outputs.size) (layout : Layout) :
    relu.gradient gradients outputs layout = .ok (passed outputs gradients) := by
  unfold gradient zipGradient
  dsimp only
  rw [if_pos size]
  refine congrArg Except.ok (eq_cells (by simp [size]) fun i inside => ?_)
  simp [rectifyGradient, cell, inside, size]

-- On floats, what is not blocked is positive or NaN.
theorem passed_float32 (outputs gradients : Array Float32) :
    passed outputs gradients = cells outputs.size fun i =>
      if 0 < cell outputs i ∨ (cell outputs i).isNaN = true then cell gradients i else 0 := by
  refine congrArg (cells outputs.size) (funext fun i => ?_)
  by_cases blocked : cell outputs i ≤ 0
  · rw [if_pos blocked, if_neg fun passes => (float32_not_le_zero_iff _).mpr passes blocked]
  · rw [if_neg blocked, if_pos ((float32_not_le_zero_iff _).mp blocked)]

end Activation

namespace Heap

open Activation Buffer

/-- A gradient call for rectified outputs answers exactly on tensors of one shape of which
the outputs are not to be replaced. It leaves zero at every output that is at most zero and
the very gradient that it was given at all others, whether or not the gradient replaces the
one that it is made from and whatever it held before. Among floats the others are the
positive ones and NaN. -/
theorem rectified_gradient_blocked {α : Type} [Zero α] [One α] [Add α] [Sub α] [Mul α] [LE α]
    [DecidableLE α] {heap : Heap α} (regular : heap.Regular) {gradient : Handle}
    (valid : heap.Valid gradient) (outputs outputGradient : Handle) :
    let called : Outcome (Heap α) (Event α) Unit :=
      heap.activationGradient .relu gradient outputs outputGradient
    (called.answer = .ok () ↔
        heap.shape outputGradient = heap.shape outputs ∧ heap.shape gradient = heap.shape outputs ∧
          gradient ≠ outputs) ∧
      (called.answer = .ok () →
        (heap.data outputs).size = (heap.shape outputs).count ∧
          (heap.data outputGradient).size = (heap.shape outputs).count ∧
          Leaves heap gradient ⟨(heap.get outputs).descriptor,
            passed (heap.data outputs) (heap.data outputGradient)⟩ called) ∧
      ∀ outputs gradients : Array Float32,
        passed outputs gradients = cells outputs.size fun i =>
          if 0 < cell outputs i ∨ (cell outputs i).isNaN = true then cell gradients i else 0 := by
  intro called
  have leaves (outputShape : heap.shape outputGradient = heap.shape outputs)
      (shape : heap.shape gradient = heap.shape outputs) (apart : gradient ≠ outputs) :
      Leaves heap gradient
        ⟨(heap.get outputs).descriptor, passed (heap.data outputs) (heap.data outputGradient)⟩
          called := by
    let call : GradientCall α :=
      ⟨heap, gradient, outputs, outputGradient, regular, valid, outputShape, shape, apart⟩
    exact call.leaves rfl rfl (gradient_relu_eq (data_size_eq regular outputShape) _)
  -- What is not refused has passed the checks.
  have checked (answer : called.answer = .ok ()) :
      heap.shape outputGradient = heap.shape outputs ∧ heap.shape gradient = heap.shape outputs ∧
        gradient ≠ outputs := by
    obtain ⟨error, -, refused⟩ | passedChecks :=
      heap.activationGradient_cases .relu gradient outputs outputGradient
    · have failed : called.answer = .error (.refused error) := congrArg Outcome.answer refused
      cases failed.symm.trans answer
    · exact checkGradient_eq_ok_iff.mp passedChecks
  refine ⟨⟨checked, fun ⟨outputShape, shape, apart⟩ => (leaves outputShape shape apart).answer⟩,
    fun answer => ?_, passed_float32⟩
  obtain ⟨outputShape, shape, apart⟩ := checked answer
  exact ⟨regular.size_of_shape rfl, regular.size_of_shape outputShape,
    leaves outputShape shape apart⟩

-- The gradient replaces the one that it is made from.
theorem rectified_gradient_blocked_in_place :
    let nan := Float32.ofBits 0x7fc00000
    let infinite := Float32.ofBits 0x7f800000
    let shape : Shape := ⟨1, 5, 1, 1⟩
    let created : Heap Float32 :=
      ((Heap.empty.create #[nan, -0, 3, -infinite, infinite] shape).state.create
      #[5, nan, -0, 7, nan] shape).state
    let called : Outcome (Heap Float32) (Event Float32) Unit :=
      created.activationGradient .relu ⟨1⟩ ⟨0⟩ ⟨1⟩
    called.answer = .ok () ∧ called.state.data ⟨0⟩ = #[nan, -0, 3, -infinite, infinite] ∧
      called.state.data ⟨1⟩ = #[5, 0, -0, 0, nan] := by
  intro nan infinite shape created called
  have regular : created.Regular := (Heap.regular_empty.create _ _).create _ _
  obtain ⟨answers, leaves, onFloats⟩ :=
    rectified_gradient_blocked regular (by decide : created.Valid ⟨1⟩) ⟨0⟩ ⟨1⟩
  have answer : called.answer = .ok () := answers.mpr ⟨by decide, by decide, by decide⟩
  obtain ⟨-, -, left⟩ := leaves answer
  refine ⟨answer, ?_, ?_⟩
  · exact congrArg Tensor.data (left.confined.others ⟨0⟩ (by decide))
  · have passes : called.state.data ⟨1⟩ = passed _ _ := congrArg Tensor.data left.tensor
    rw [passes, onFloats]
    decide +kernel

/-- NaN is not positive, and the gradient at it is passed on all the same. -/
theorem nan_output_passes_gradient :
    let nan := Float32.ofBits 0x7fc00000
    let shape : Shape := ⟨1, 1, 1, 1⟩
    let created : Heap Float32 :=
      (((Heap.empty.create #[nan] shape).state.create #[5] shape).state.create #[7] shape).state
    let called : Outcome (Heap Float32) (Event Float32) Unit :=
      created.activationGradient .relu ⟨2⟩ ⟨0⟩ ⟨1⟩
    called.answer = .ok () ∧ called.state.data ⟨2⟩ = #[5] ∧ ¬ 0 < nan ∧ (5 : Float32) ≠ 0 := by
  intro nan shape created called
  have regular : created.Regular := ((Heap.regular_empty.create _ _).create _ _).create _ _
  have valid : created.Valid ⟨2⟩ := by decide
  have checked : created.checkGradient .relu ⟨2⟩ ⟨0⟩ ⟨1⟩ = .ok () :=
    checkGradient_eq_ok_iff.mpr ⟨by decide, by decide, by decide⟩
  have size : (created.data ⟨1⟩).size = (created.data ⟨0⟩).size := by decide
  obtain ⟨answer, after⟩ :=
    activationGradient_stores regular valid checked (gradient_relu_eq size _)
  change called.state = _ at after
  refine ⟨answer, ?_, by decide +kernel, by decide +kernel⟩
  rw [after, data_store_self valid]
  decide +kernel

end Heap

end TensorEngine

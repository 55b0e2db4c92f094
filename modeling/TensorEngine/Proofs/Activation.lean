import TensorEngine.Activation
import TensorEngine.Proofs.Storage

/-! Activations on storage that has the elements of its layout: each answers, forward
and backward, with as many elements as it was given. -/

set_option autoImplicit false

namespace TensorEngine.Activation

variable {α : Type}

theorem size_ofLanes [Zero α] (layout : Layout) (newLane : Nat → Nat → Nat → List α) :
    (ofLanes layout newLane).size = layout.count := by
  simp [ofLanes]

theorem zipGradient_answers (rule : α → α → α) {gradients outputs : Array α}
    (size : gradients.size = outputs.size) :
    ∃ result, zipGradient rule gradients outputs = .ok result ∧ result.size = gradients.size := by
  unfold zipGradient
  rw [if_pos size]
  exact ⟨_, rfl, by simp [size]⟩

variable [Zero α] [One α] [Add α] [Sub α] [LE α] [DecidableLE α] (activation : Activation)
  {layout : Layout}

theorem apply_softmax [Neg α] [Div α] [LT α] [DecidableLT α] [Elementary α] {inputs : Array α}
    (size : inputs.size = layout.count) :
    softmax.apply inputs layout = .ok (ofLanes layout fun sample row col =>
      laneSoftmax (adjacentLanes layout) (lane inputs layout sample row col)) := by
  unfold apply
  dsimp only
  rw [(Buffer.fitsLayout_eq_ok_iff _ _).mpr size]
  rfl

theorem gradient_softmax [Mul α] {gradients outputs : Array α}
    (size : gradients.size = layout.count) (outputsSize : outputs.size = layout.count) :
    softmax.gradient gradients outputs layout = .ok (ofLanes layout fun sample row col =>
      laneSoftmaxGradient (adjacentLanes layout) (lane outputs layout sample row col)
        (lane gradients layout sample row col)) := by
  unfold gradient
  dsimp only
  rw [(Buffer.fitsLayout_eq_ok_iff _ _).mpr size, (Buffer.fitsLayout_eq_ok_iff _ _).mpr outputsSize]
  rfl

theorem apply_answers [Neg α] [Div α] [LT α] [DecidableLT α] [Elementary α] {inputs : Array α}
    (size : inputs.size = layout.count) :
    ∃ result, activation.apply inputs layout = .ok result ∧ result.size = inputs.size := by
  cases activation with
  | softmax => exact ⟨_, apply_softmax size, (size_ofLanes ..).trans size.symm⟩
  | sigmoid => exact ⟨_, rfl, Array.size_map⟩
  | relu => exact ⟨_, rfl, Array.size_map⟩
  | tanh => exact ⟨_, rfl, Array.size_map⟩

theorem gradient_answers [Mul α] {gradients outputs : Array α}
    (size : gradients.size = layout.count) (outputsSize : outputs.size = layout.count) :
    ∃ result, activation.gradient gradients outputs layout = .ok result ∧
      result.size = gradients.size := by
  have same := size.trans outputsSize.symm
  cases activation with
  | softmax => exact ⟨_, gradient_softmax size outputsSize, (size_ofLanes ..).trans size.symm⟩
  | sigmoid => exact zipGradient_answers logisticGradient same
  | relu => exact zipGradient_answers rectifyGradient same
  | tanh => exact zipGradient_answers tanhGradient same

end TensorEngine.Activation

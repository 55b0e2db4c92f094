import TensorEngine.Proofs.Heap.Broadcast
import TensorEngine.Proofs.Summation

/-! The gradient of a bias. A bias has one element for each channel, and adding it reads
that element at every sample, row and column; its gradient is the sum of a channel over
the same places. In exact arithmetic the one is the adjoint of the other. -/

set_option autoImplicit false

namespace TensorEngine

variable {α : Type}

/-- The shape of a bias for tensors of this shape. -/
def Shape.bias (shape : Shape) : Shape := ⟨1, shape.channels, 1, 1⟩

-- Channel by channel, over all else.
theorem Shape.sum_channels {β : Type} [AddCommMonoid β] (shape : Shape) (f : Index → β) :
    ∑ index ∈ shape.positions, f index =
      ∑ channel ∈ Finset.range shape.channels, ∑ sample ∈ Finset.range shape.samples,
        ∑ row ∈ Finset.range shape.rows, ∑ col ∈ Finset.range shape.cols,
          f ⟨sample, channel, row, col⟩ := by
  rw [sum_positions, Finset.sum_comm]

namespace Elementwise

/-- In exact arithmetic the three sums over a channel are one. -/
theorem channelSum_eq_sum [AddCommMonoid α] (values : Array α) (layout : Layout) (channel : Nat) :
    channelSum values layout channel =
      ∑ sample ∈ Finset.range layout.dims.samples, ∑ row ∈ Finset.range layout.dims.rows,
        ∑ col ∈ Finset.range layout.dims.cols,
          Buffer.read layout values ⟨sample, channel, row, col⟩ := by
  unfold channelSum
  simp only [sumInOrder_eq_sum, sumStriped_eq_sum]
  rfl

theorem broadcasts_bias (shape : Shape) : broadcasts shape shape.bias = true := by
  simp [broadcasts, matchesDim, Shape.bias]

-- An axis of one channel is read at its only place, which is the channel as well.
theorem broadcastIndex_bias {shape : Shape} {index : Index} (within : index.Within shape) :
    broadcastIndex shape.bias index = ⟨0, index.channel, 0, 0⟩ := by
  obtain ⟨-, channel, -, -⟩ := within
  unfold broadcastIndex broadcastCoord Shape.bias
  simp only [if_true, Index.mk.injEq, true_and, and_true]
  split <;> omega

theorem blend_zero_one [NonAssocSemiring α] [BEq α] (old value : α) :
    blend 0 old 1 value = value := by
  simp [blend]

end Elementwise

namespace Heap

variable {heap : Heap α} {grad gradient : Handle}

theorem addBiasGradient_of_shape_ne [Zero α] [Add α] (apart : grad ≠ gradient)
    (holds : 0 < (heap.shape gradient).count)
    (differs : heap.shape grad ≠ (heap.shape gradient).bias) :
    heap.addBiasGradient grad gradient =
      .refuse heap (.shapeMismatch (heap.shape gradient).bias.toList (heap.shape grad).toList) := by
  have checked : heap.checkBiasGradient grad gradient =
      .error (.shapeMismatch (heap.shape gradient).bias.toList (heap.shape grad).toList) := by
    have separate : distinct "add_conv_bias_gradient" ("grad", grad) ("gradient_input", gradient) =
        .ok () :=
      distinct_eq_ok_iff.mpr apart
    have nonempty : (heap.layout gradient).count ≠ 0 := Nat.ne_of_gt holds
    unfold checkBiasGradient
    rw [separate, if_neg nonempty]
    unfold expectShape
    exact if_neg differs
  unfold addBiasGradient
  rw [checked]

section

variable [AddCommMonoid α] (regular : heap.Regular) (apart : grad ≠ gradient)
  (holds : 0 < (heap.shape gradient).count) (shape : heap.shape grad = (heap.shape gradient).bias)

include regular apart holds shape

/-- What the call adds to a channel is the sum of the gradient over it. -/
theorem addBiasGradient_of_shape :
    let called : Outcome (Heap α) (Event α) Unit := heap.addBiasGradient grad gradient
    called.answer = .ok () ∧ ∀ channel < (heap.shape gradient).channels,
      called.state.element grad ⟨0, channel, 0, 0⟩ = heap.element grad ⟨0, channel, 0, 0⟩ +
        ∑ sample ∈ Finset.range (heap.shape gradient).samples,
          ∑ row ∈ Finset.range (heap.shape gradient).rows,
          ∑ col ∈ Finset.range (heap.shape gradient).cols,
            heap.element gradient ⟨sample, channel, row, col⟩ := by
  intro called
  obtain ⟨events, answered⟩ := addBiasGradient_of_checked regular
    (checkBiasGradient_eq_ok_iff.mpr ⟨apart, Nat.ne_of_gt holds, shape⟩)
  have size := size_bias regular shape
  have channels : 0 < (heap.shape gradient).channels := (Shape.pos_of_count holds).2.1
  have valid : heap.Valid grad :=
    valid_of_holds (channels.trans_eq (size.symm.trans (regular grad).size))
  refine ⟨congrArg Outcome.answer answered, fun channel inside => ?_⟩
  have place : (heap.layout grad).offset ⟨0, channel, 0, 0⟩ = channel := by
    have rowMajor : (heap.layout grad).RowMajor := (regular grad).rowMajor
    have dims : (heap.layout grad).dims = ⟨1, (heap.shape gradient).channels, 1, 1⟩ := shape
    rw [rowMajor.offset_eq, dims]
    simp
  have after : called.state = _ := congrArg Outcome.state answered
  unfold element Buffer.read
  rw [after, layout_store heap grad grad _ valid, data_store_self valid, place,
    Buffer.cell_cells _ (size ▸ inside), Elementwise.channelSum_eq_sum]
  rfl

end

section

variable [CommRing α] [BEq α]

/-- Adding up a gradient over the channels of a bias is the adjoint of adding the bias to
every place. It answers exactly if its destination has the shape of a bias; the increments
of the destination paired with a bias are then the gradient paired with what broadcasting
the bias makes of a tensor, whatever that tensor held. -/
theorem biasGradient_adjoint_to_broadcast (regular : heap.Regular) (apart : grad ≠ gradient)
    (holds : 0 < (heap.shape gradient).count) :
    let called : Outcome (Heap α) (Event α) Unit := heap.addBiasGradient grad gradient
    let shape := heap.shape gradient
    let channels := Finset.range shape.channels
    (called.answer = .ok () ↔ heap.shape grad = ⟨1, shape.channels, 1, 1⟩) ∧
    (heap.shape grad ≠ ⟨1, shape.channels, 1, 1⟩ →
      called = .refuse heap (.shapeMismatch [1, shape.channels, 1, 1] (heap.shape grad).toList)) ∧
    (heap.shape grad = ⟨1, shape.channels, 1, 1⟩ →
      (∀ channel < shape.channels, called.state.element grad ⟨0, channel, 0, 0⟩ =
        heap.element grad ⟨0, channel, 0, 0⟩ +
          ∑ sample ∈ Finset.range shape.samples, ∑ row ∈ Finset.range shape.rows,
            ∑ col ∈ Finset.range shape.cols, heap.element gradient ⟨sample, channel, row, col⟩) ∧
      ∀ (other : Heap α) (dest bias : Handle), other.Regular → dest ≠ bias →
        other.shape dest = shape →
        other.shape bias = ⟨1, shape.channels, 1, 1⟩ →
          let broadcast : Outcome (Heap α) (Event α) Unit := other.add 0 dest 1 bias
          broadcast.answer = .ok () ∧ broadcast.state.shape dest = shape ∧
            ∑ index ∈ shape.positions,
              heap.element gradient index * broadcast.state.element dest index =
              ∑ channel ∈ channels, other.element bias ⟨0, channel, 0, 0⟩ *
                (called.state.element grad ⟨0, channel, 0, 0⟩ - heap.element grad
                  ⟨0, channel, 0, 0⟩)) := by
  intro called shape channels
  have refused : heap.shape grad ≠ shape.bias → called = _ :=
    addBiasGradient_of_shape_ne apart holds
  have answered :=
    fun same : heap.shape grad = shape.bias => addBiasGradient_of_shape regular apart holds same
  refine ⟨⟨fun answer => ?_, fun same => (answered same).1⟩, refused,
    fun same => ⟨(answered same).2, ?_⟩⟩
  · by_contra differs
    rw [refused differs] at answer
    cases answer
  · intro other dest bias otherRegular separate destShape biasShape broadcast
    have destHolds : 0 < (other.layout dest).count := by
      change 0 < (other.shape dest).count
      rwa [destShape]
    have compatible : Elementwise.broadcasts (other.shape dest) (other.shape bias) = true := by
      rw [destShape, biasShape]
      exact Elementwise.broadcasts_bias shape
    obtain ⟨-, answer, kept, each⟩ :=
      add_of_broadcasts (0 : α) 1 separate otherRegular (valid_of_holds destHolds) compatible
    have copied : ∀ index : Index, index.Within shape →
        broadcast.state.element dest index = other.element bias ⟨0, index.channel, 0, 0⟩ := by
      intro index within
      rw [each index (destShape ▸ within), Elementwise.blend_zero_one, biasShape]
      exact congrArg (other.element bias) (Elementwise.broadcastIndex_bias within)
    refine ⟨answer, kept.trans destShape, ?_⟩
    calc ∑ index ∈ shape.positions, heap.element gradient index * broadcast.state.element dest index
        = ∑ index ∈ shape.positions,
            heap.element gradient index * other.element bias ⟨0, index.channel, 0, 0⟩ :=
          Finset.sum_congr rfl fun index member =>
            by rw [copied index (Shape.mem_positions.mp member)]
      _ = ∑ channel ∈ channels, other.element bias ⟨0, channel, 0, 0⟩ *
            ∑ sample ∈ Finset.range shape.samples, ∑ row ∈ Finset.range shape.rows,
              ∑ col ∈ Finset.range shape.cols,
                heap.element gradient ⟨sample, channel, row, col⟩ := by
          rw [Shape.sum_channels]
          refine Finset.sum_congr rfl fun channel _ => ?_
          simp only [← Finset.sum_mul]
          exact mul_comm _ _
      _ = ∑ channel ∈ channels, other.element bias ⟨0, channel, 0, 0⟩ *
            (called.state.element grad ⟨0, channel, 0, 0⟩ - heap.element grad ⟨0, channel, 0, 0⟩) :=
          Finset.sum_congr rfl fun channel member => by
            rw [(answered same).2 channel (Finset.mem_range.mp member), add_sub_cancel_left]

end

theorem biasGradient_adjoint_to_broadcast_integers :
    let created : Heap Int :=
      (((((Heap.empty.create #[1, 2, 3, 4, 5, 6, 7, 8] ⟨2, 2, 1, 2⟩).state.create
      #[10, 20] ⟨1, 2, 1, 1⟩).state.create #[9, 9, 9, 9, 9, 9, 9, 9] ⟨2, 2, 1, 2⟩).state.create
      #[3, -1] ⟨1, 2, 1, 1⟩).state.create #[0] ⟨1, 1, 1, 1⟩).state
    let called : Outcome (Heap Int) (Event Int) Unit := created.addBiasGradient ⟨1⟩ ⟨0⟩
    let narrow : Outcome (Heap Int) (Event Int) Unit := created.addBiasGradient ⟨4⟩ ⟨0⟩
    let broadcast : Outcome (Heap Int) (Event Int) Unit := created.add 0 ⟨2⟩ 1 ⟨3⟩
    called.answer = .ok () ∧ called.state.element ⟨1⟩ ⟨0, 1, 0, 0⟩ = 20 + (3 + 4 + (7 + 8)) ∧
      narrow = .refuse created (.shapeMismatch [1, 2, 1, 1] [1, 1, 1, 1]) ∧
      ∑ index ∈ (⟨2, 2, 1, 2⟩ : Shape).positions,
        created.element ⟨0⟩ index * broadcast.state.element ⟨2⟩ index =
        ∑ channel ∈ Finset.range 2, created.element ⟨3⟩ ⟨0, channel, 0, 0⟩ *
          (called.state.element ⟨1⟩ ⟨0, channel, 0, 0⟩ - created.element ⟨1⟩
            ⟨0, channel, 0, 0⟩) := by
  intro created called narrow broadcast
  have regular : created.Regular :=
    ((((Heap.regular_empty.create _ _).create _ _).create _ _).create _ _).create _ _
  have holds : 0 < (created.shape ⟨0⟩).count := by decide
  have apart : (⟨1⟩ : Handle) ≠ ⟨0⟩ := by decide
  have narrowApart : (⟨4⟩ : Handle) ≠ ⟨0⟩ := by decide
  obtain ⟨answers, -, adds⟩ := biasGradient_adjoint_to_broadcast regular apart holds
  obtain ⟨-, refuses, -⟩ := biasGradient_adjoint_to_broadcast regular narrowApart holds
  obtain ⟨sums, adjoint⟩ := adds rfl
  have second : called.state.element ⟨1⟩ ⟨0, 1, 0, 0⟩ = 20 + (3 + 4 + (7 + 8)) := sums 1 (by decide)
  exact ⟨answers.mpr rfl, second,
    refuses (by decide), (adjoint created ⟨2⟩ ⟨3⟩ regular (by decide) rfl rfl).2.2⟩

end Heap

end TensorEngine

import TensorEngine.Activation
import TensorEngine.Proofs.Layout
import TensorEngine.Proofs.Summation

/-! Lanes. The positions of one sample, row and column form a lane along the channels;
every position lies in one lane, and its channel is its place there. -/

set_option autoImplicit false

namespace TensorEngine.Activation

open Buffer

variable {α : Type} [Zero α] {layout : Layout}

theorem lane_eq (values : Array α) (layout : Layout) (sample row col : Nat) :
    lane values layout sample row col =
      (List.range layout.dims.channels).map fun channel =>
        Buffer.read layout values ⟨sample, channel, row, col⟩ := rfl

@[simp] theorem length_lane (values : Array α) (layout : Layout) (sample row col : Nat) :
    (lane values layout sample row col).length = layout.dims.channels := by
  simp [lane]

theorem getD_lane (values : Array α) {sample channel row col : Nat}
    (inside : channel < layout.dims.channels) :
    (lane values layout sample row col).getD channel 0 = Buffer.read layout values
      ⟨sample, channel, row, col⟩ := by
  simp [lane_eq, inside]

theorem getD_ofFn {β : Type} {count i : Nat} (f : Fin count → β) (default : β)
    (inside : i < count) :
    (Array.ofFn f).getD i default = f ⟨i, inside⟩ := by
  rw [Array.getD_eq_getD_getElem?, Array.getElem?_ofFn, dif_pos inside]
  rfl

/-- Storage filled lane by lane holds at each position what the lane of that position has in
its place. -/
theorem read_ofLanes (rowMajor : layout.RowMajor) (newLane : Nat → Nat → Nat → List α)
    {index : Index} (within : index.Within layout.dims) :
    Buffer.read layout (ofLanes layout newLane) index =
      (newLane index.sample index.row index.col).getD index.channel 0 := by
  obtain ⟨sample, -, row, col⟩ := id within
  have position : layout.planePosition (layout.offset index) = index := by
    rw [rowMajor.planePosition_eq, rowMajor.position_offset within]
  have inPlane : index.row * layout.dims.cols + index.col < layout.plane := place_lt row col
  have inLanes : index.sample * layout.plane + index.row * layout.dims.cols + index.col <
      layout.dims.samples * layout.plane := by
    rw [Nat.add_assoc]
    exact place_lt sample inPlane
  unfold Buffer.read cell ofLanes
  dsimp only
  rw [getD_ofFn _ _ (rowMajor.offset_lt within)]
  dsimp only
  rw [position, getD_ofFn _ _ inLanes]
  dsimp only
  rw [Nat.add_assoc, place_div inPlane, place_mod inPlane, place_div col, place_mod col]
  simp [Array.getD_eq_getD_getElem?]

/-! In exact arithmetic a share is a weight over the sum of the weights. -/

theorem getD_laneSoftmax {α : Type} [AddCommMonoid α] [Sub α] [Div α] [LT α] [LE α] [DecidableLT α]
    [DecidableLE α] [Elementary α] (adjacent : Bool) {values : List α} {channel : Nat}
    (inside : channel < values.length) :
    (laneSoftmax adjacent values).getD channel 0 =
      (laneWeights values).getD channel 0 / ∑ i ∈ Finset.range values.length,
        (laneWeights values).getD i 0 := by
  have length : (laneWeights values).length = values.length := List.length_map ..
  unfold laneSoftmax
  dsimp only
  rw [sumRun_eq_sum, length]
  simp [List.getD_eq_getElem?_getD, length, inside]

theorem getD_laneSoftmaxGradient {α : Type} [AddCommMonoid α] [Sub α] [Mul α] (adjacent : Bool)
    {outputs gradients : List α} (length : gradients.length = outputs.length) {channel : Nat}
    (inside : channel < outputs.length) :
    (laneSoftmaxGradient adjacent outputs gradients).getD channel 0 =
      outputs.getD channel 0 * (gradients.getD channel 0 -
        ∑ i ∈ Finset.range outputs.length, gradients.getD i 0 * outputs.getD i 0) := by
  unfold laneSoftmaxGradient
  dsimp only
  rw [sumRun_eq_sum]
  simp [List.getD_eq_getElem?_getD, length, inside]

-- The gradient of a softmax at one position reads the lane of that position.
theorem read_softmaxGradient {α : Type} [AddCommMonoid α] [Sub α] [Mul α]
    (rowMajor : layout.RowMajor) (outputs gradients : Array α) {sample channel row col : Nat}
    (within : (⟨sample, channel, row, col⟩ : Index).Within layout.dims) :
    Buffer.read layout (ofLanes layout fun sample row col =>
      laneSoftmaxGradient (adjacentLanes layout)
        (lane outputs layout sample row col) (lane gradients layout sample row col))
          ⟨sample, channel, row, col⟩ =
      Buffer.read layout outputs ⟨sample, channel, row, col⟩ *
        (Buffer.read layout gradients ⟨sample, channel, row, col⟩ -
          ∑ other ∈ Finset.range layout.dims.channels,
            Buffer.read layout gradients ⟨sample, other, row, col⟩ *
            Buffer.read layout outputs ⟨sample, other, row, col⟩) := by
  have inside : channel < layout.dims.channels := within.2.1
  have terms (other : Nat) (member : other ∈ Finset.range layout.dims.channels) :
      (lane gradients layout sample row col).getD other 0 *
        (lane outputs layout sample row col).getD other 0 =
        Buffer.read layout gradients ⟨sample, other, row, col⟩ *
          Buffer.read layout outputs ⟨sample, other, row, col⟩ := by
    rw [getD_lane gradients (Finset.mem_range.mp member),
      getD_lane outputs (Finset.mem_range.mp member)]
  rw [read_ofLanes rowMajor _ within]
  dsimp only
  rw [getD_laneSoftmaxGradient _ (by simp) (by simpa using inside), getD_lane outputs inside,
    getD_lane gradients inside, length_lane, Finset.sum_congr rfl terms]

end TensorEngine.Activation

import Mathlib.Algebra.BigOperators.Field
import Mathlib.Analysis.SpecialFunctions.ExpDeriv
import Mathlib.Analysis.SpecialFunctions.Trigonometric.DerivHyp
import Mathlib.Topology.Algebra.Module.ModuleTopology
import TensorEngine.Proofs.Activation
import TensorEngine.Proofs.Activation.Lane

/-! Activations of real numbers as differentiable functions. The rule that makes a
gradient from the outputs gives, in every direction, the derivative of the weighted
sum of the outputs. -/

set_option autoImplicit false

namespace TensorEngine

noncomputable instance : Elementary ℝ := ⟨Real.exp, Real.tanh⟩

/-- Storage after a step of length `t` in a direction. -/
def Buffer.moved (storage : Array ℝ) (direction : Nat → ℝ) (t : ℝ) : Array ℝ :=
  cells storage.size fun i => cell storage i + t * direction i

namespace Activation

open Buffer

/-! One element. -/

/-- A rule that makes a gradient from an output: the weight of the output times the slope there. -/
def Differentiates (rule : ℝ → ℝ → ℝ) (f : ℝ → ℝ) (x : ℝ) : Prop :=
  ∃ slope, HasDerivAt f slope x ∧ ∀ weight, rule (f x) weight = weight * slope

theorem logistic_differentiates (x : ℝ) : Differentiates logisticGradient logistic x := by
  have positive : 0 < 1 + Real.exp (-x) := by positivity
  have denominator : HasDerivAt (fun y => 1 + Real.exp (-y)) (Real.exp (-x) * -1) x :=
    (hasDerivAt_neg x).exp.const_add 1
  have quotient := (hasDerivAt_const x (1 : ℝ)).div denominator positive.ne'
  refine ⟨logistic x * (1 - logistic x), quotient.congr_deriv ?_, fun weight => rfl⟩
  change _ = 1 / (1 + Real.exp (-x)) * (1 - 1 / (1 + Real.exp (-x)))
  field_simp
  ring

theorem tanh_differentiates (x : ℝ) : Differentiates tanhGradient Elementary.tanh x := by
  have positive := Real.cosh_pos x
  have quotient := (Real.hasDerivAt_sinh x).div (Real.hasDerivAt_cosh x) positive.ne'
  have same : Elementary.tanh = Real.sinh / Real.cosh := funext Real.tanh_eq_sinh_div_cosh
  rw [same]
  refine ⟨_, quotient.congr_deriv ?_, fun weight => rfl⟩
  rw [Pi.div_apply]
  field_simp

-- On either side of zero the rectifier is linear.
theorem rectify_differentiates {x : ℝ} (nonzero : x ≠ 0) :
    Differentiates rectifyGradient rectify x := by
  rcases nonzero.lt_or_gt with negative | positive
  · have zero : rectify x = 0 := if_neg (not_lt.mpr negative.le)
    refine ⟨0, (hasDerivAt_const x (0 : ℝ)).congr_of_eventuallyEq ?_, fun weight => ?_⟩
    · filter_upwards [Iio_mem_nhds negative] with y below
      exact if_neg (not_lt.mpr (le_of_lt below))
    · rw [mul_zero]
      exact if_pos zero.le
  · have same : rectify x = x := if_pos positive
    refine ⟨1, (hasDerivAt_id x).congr_of_eventuallyEq ?_, fun weight => ?_⟩
    · filter_upwards [Ioi_mem_nhds positive] with y above
      exact if_pos above
    · rw [mul_one]
      exact if_neg (not_le.mpr (positive.trans_eq same.symm))

/-! Sums over storage and along a lane. -/

-- A step is linear, so an element is moved at the rate of its direction.
theorem hasDerivAt_step (value rate : ℝ) : HasDerivAt (fun t => value + t * rate) rate 0 := by
  simpa using ((hasDerivAt_id (0 : ℝ)).mul_const rate).const_add value

theorem hasDerivAt_sum_map {f : ℝ → ℝ} {rule : ℝ → ℝ → ℝ} {inputs weights : Array ℝ}
    (direction : Nat → ℝ) (size : weights.size = inputs.size)
    (each : ∀ x ∈ inputs, Differentiates rule f x) :
    HasDerivAt (fun t => ∑ i ∈ Finset.range inputs.size,
      cell weights i * cell ((moved inputs direction t).map f) i)
      (∑ i ∈ Finset.range inputs.size,
        cell (Array.zipWith (fun weight output => rule output weight) weights (inputs.map f)) i *
          direction i) 0 := by
  refine HasDerivAt.fun_sum fun i member => ?_
  have inside := Finset.mem_range.mp member
  obtain ⟨slope, differentiable, ruled⟩ := each (cell inputs i) (by simp [cell, inside])
  have along (t : ℝ) :
      cell ((moved inputs direction t).map f) i = f (cell inputs i + t * direction i) := by
    simp [moved, cell, cells, inside]
  have combined : cell
      (Array.zipWith (fun weight output => rule output weight) weights (inputs.map f)) i =
        rule (f (cell inputs i)) (cell weights i) := by
    simp [cell, inside, size]
  simp only [along]
  rw [combined, ruled]
  have start : HasDerivAt f slope (cell inputs i + 0 * direction i) := by simpa using differentiable
  exact ((start.comp 0 (hasDerivAt_step _ _)).const_mul (cell weights i)).congr_deriv (by ring)

/-- The share of one element of a lane. -/
noncomputable def share (count : Nat) (x : Nat → ℝ) (k : Nat) : ℝ :=
  Real.exp (x k) / ∑ j ∈ Finset.range count, Real.exp (x j)

theorem share_congr {count k : Nat} (inside : k < count) {x y : Nat → ℝ}
    (same : ∀ j < count, x j = y j) :
    share count x k = share count y k := by
  unfold share
  rw [same k inside, Finset.sum_congr rfl fun j member =>
    congrArg Real.exp (same j (Finset.mem_range.mp member))]

theorem hasDerivAt_share {count k : Nat} (inside : k < count) (x direction : Nat → ℝ) :
    HasDerivAt (fun t => share count (fun j => x j + t * direction j) k)
      (share count x k * (direction k - ∑ j ∈ Finset.range count, share count x j * direction j))
        0 := by
  have weight (j : Nat) :
      HasDerivAt (fun t => Real.exp (x j + t * direction j)) (Real.exp (x j) * direction j) 0 := by
    simpa using (hasDerivAt_step (x j) (direction j)).exp
  have total := HasDerivAt.fun_sum fun j (_ : j ∈ Finset.range count) => weight j
  have positive : 0 < ∑ j ∈ Finset.range count, Real.exp (x j) :=
    Finset.sum_pos (fun j _ => Real.exp_pos _) ⟨k, Finset.mem_range.mpr inside⟩
  have shares : ∑ j ∈ Finset.range count, share count x j * direction j =
      (∑ j ∈ Finset.range count, Real.exp (x j) * direction j) / ∑ j ∈ Finset.range count,
        Real.exp (x j) := by
    rw [Finset.sum_div]
    exact Finset.sum_congr rfl fun j _ => div_mul_eq_mul_div ..
  refine ((weight k).fun_div total (by simpa using positive.ne')).congr_deriv ?_
  rw [shares]
  simp only [zero_mul, add_zero]
  unfold share
  field_simp

/-- Along a lane, the projected gradient is the gradient of the weighted sum of the shares. -/
theorem hasDerivAt_sum_share (count : Nat) (x weights direction : Nat → ℝ) :
    HasDerivAt (fun t => ∑ k ∈ Finset.range count,
      weights k * share count (fun j => x j + t * direction j) k)
      (∑ k ∈ Finset.range count, share count x k *
        (weights k - ∑ j ∈ Finset.range count, weights j * share count x j) * direction k) 0 := by
  let mean := ∑ j ∈ Finset.range count, share count x j * direction j
  have each := HasDerivAt.fun_sum fun k (member : k ∈ Finset.range count) =>
    (hasDerivAt_share (Finset.mem_range.mp member) x direction).const_mul (weights k)
  refine each.congr_deriv ?_
  calc ∑ k ∈ Finset.range count, weights k * (share count x k * (direction k - mean))
      = ∑ k ∈ Finset.range count, share count x k * weights k * direction k -
          (∑ k ∈ Finset.range count, weights k * share count x k) * mean := by
        rw [Finset.sum_mul, ← Finset.sum_sub_distrib]
        exact Finset.sum_congr rfl fun k _ => by ring
    _ = ∑ k ∈ Finset.range count, share count x k * weights k * direction k -
          ∑ k ∈ Finset.range count, share count x k *
            (∑ j ∈ Finset.range count, weights j * share count x j) * direction k := by
        rw [Finset.mul_sum]
        congr 1
        exact Finset.sum_congr rfl fun k _ => by ring
    _ = _ := by
        rw [← Finset.sum_sub_distrib]
        exact Finset.sum_congr rfl fun k _ => by ring

-- The greatest element of a lane divides out.
theorem getD_laneSoftmax_real (adjacent : Bool) {values : List ℝ} {channel : Nat}
    (inside : channel < values.length) :
    (laneSoftmax adjacent values).getD channel 0 = share values.length
      (fun i => values.getD i 0) channel := by
  obtain ⟨shift, shifted⟩ : ∃ shift, laneWeights values = values.map fun value =>
      Real.exp (value - shift) := by
    unfold laneWeights
    cases peak values with
    | none => exact ⟨0, by simp [Elementary.exp]⟩
    | some greatest => exact ⟨greatest, rfl⟩
  have weight {i : Nat} (within : i < values.length) :
      (laneWeights values).getD i 0 = Real.exp (values.getD i 0) / Real.exp shift := by
    rw [← Real.exp_sub, shifted]
    simp [within]
  have total : ∑ i ∈ Finset.range values.length, (laneWeights values).getD i 0 =
      (∑ i ∈ Finset.range values.length, Real.exp (values.getD i 0)) / Real.exp shift := by
    rw [Finset.sum_div]
    exact Finset.sum_congr rfl fun i member => weight (Finset.mem_range.mp member)
  rw [getD_laneSoftmax adjacent inside, weight inside, total]
  exact div_div_div_cancel_right₀ (Real.exp_ne_zero shift) ..

/-! All lanes of a tensor. -/

section

variable {layout : Layout} (rowMajor : layout.RowMajor) {inputs : Array ℝ}
  (size : inputs.size = layout.count)

include rowMajor size

theorem read_moved {index : Index} (within : index.Within layout.dims) (direction : Nat → ℝ)
    (t : ℝ) :
    Buffer.read layout (moved inputs direction t) index =
      Buffer.read layout inputs index + t * direction (layout.offset index) :=
  cell_cells _ (size ▸ rowMajor.offset_lt within)

omit size in
theorem read_softmax (inputs : Array ℝ) {sample channel row col : Nat}
    (within : (⟨sample, channel, row, col⟩ : Index).Within layout.dims) :
    Buffer.read layout (ofLanes layout fun sample row col =>
        laneSoftmax (adjacentLanes layout) (lane inputs layout sample row col))
          ⟨sample, channel, row, col⟩ =
      share layout.dims.channels (fun other => Buffer.read layout inputs ⟨sample, other, row, col⟩)
        channel := by
  have inside : channel < layout.dims.channels := within.2.1
  rw [read_ofLanes rowMajor _ within]
  dsimp only
  rw [getD_laneSoftmax_real _ (by simpa using inside), length_lane]
  exact share_congr inside fun other => getD_lane inputs

theorem hasDerivAt_sum_softmax (weights : Array ℝ) (direction : Nat → ℝ) :
    let outputs (inputs : Array ℝ) := ofLanes layout fun sample row col =>
      laneSoftmax (adjacentLanes layout) (lane inputs layout sample row col)
    let gradients := ofLanes layout fun sample row col => laneSoftmaxGradient (adjacentLanes layout)
      (lane (outputs inputs) layout sample row col) (lane weights layout sample row col)
    HasDerivAt (fun t => ∑ i ∈ Finset.range layout.count,
      cell weights i * cell (outputs (moved inputs direction t)) i)
      (∑ i ∈ Finset.range layout.count, cell gradients i * direction i) 0 := by
  intro outputs gradients
  -- Both sums are taken location by location, and a location sees its own lane only.
  simp only [rowMajor.sum_count, Shape.sum_lanes]
  refine HasDerivAt.fun_sum fun sample inSamples => HasDerivAt.fun_sum fun row inRows =>
    HasDerivAt.fun_sum fun col inCols => ?_
  have within {channel : Nat} (inside : channel ∈ Finset.range layout.dims.channels) :
      (⟨sample, channel, row, col⟩ : Index).Within layout.dims :=
    ⟨Finset.mem_range.mp inSamples, Finset.mem_range.mp inside, Finset.mem_range.mp inRows,
      Finset.mem_range.mp inCols⟩
  let x (channel : Nat) := Buffer.read layout inputs ⟨sample, channel, row, col⟩
  let weight (channel : Nat) := Buffer.read layout weights ⟨sample, channel, row, col⟩
  let rate (channel : Nat) := direction (layout.offset ⟨sample, channel, row, col⟩)
  have along (t : ℝ) {channel : Nat} (inside : channel ∈ Finset.range layout.dims.channels) :
      Buffer.read layout (outputs (moved inputs direction t)) ⟨sample, channel, row, col⟩ =
        share layout.dims.channels (fun other => x other + t * rate other) channel :=
    (read_softmax rowMajor _ (within inside)).trans
      (share_congr (Finset.mem_range.mp inside) fun other less =>
        read_moved rowMajor size (within (Finset.mem_range.mpr less)) direction t)
  have projected {channel : Nat} (inside : channel ∈ Finset.range layout.dims.channels) :
      Buffer.read layout gradients ⟨sample, channel, row, col⟩ =
        share layout.dims.channels x channel *
        (weight channel - ∑ other ∈ Finset.range layout.dims.channels,
          weight other * share layout.dims.channels x other) := by
    refine (read_softmaxGradient rowMajor _ weights (within inside)).trans ?_
    rw [read_softmax rowMajor inputs (within inside),
      Finset.sum_congr rfl fun other member => by rw [read_softmax rowMajor inputs (within member)]]
  refine (hasDerivAt_sum_share layout.dims.channels x weight rate).congr_of_eventuallyEq
    ?_ |>.congr_deriv ?_
  · refine Filter.Eventually.of_forall fun t => Finset.sum_congr rfl fun channel member => ?_
    exact congrArg (weight channel * ·) (along t member)
  · exact Finset.sum_congr rfl fun channel member =>
      congrArg (· * rate channel) (projected member).symm

end

/-! Any activation. -/

theorem moved_zero (storage : Array ℝ) (direction : Nat → ℝ) :
    moved storage direction 0 = storage := by
  unfold moved
  simp only [zero_mul, add_zero]
  exact cells_cell storage

theorem elementwise_hasDerivAt {f : ℝ → ℝ} {rule : ℝ → ℝ → ℝ} {inputs weights : Array ℝ}
    (direction : Nat → ℝ) (size : weights.size = inputs.size)
    (each : ∀ x ∈ inputs, Differentiates rule f x) :
    ∃ gradients, zipGradient rule weights ((moved inputs direction 0).map f) = .ok gradients ∧
      HasDerivAt (fun t => ∑ i ∈ Finset.range inputs.size,
        cell weights i * cell ((moved inputs direction t).map f) i)
        (∑ i ∈ Finset.range inputs.size, cell gradients i * direction i) 0 := by
  refine ⟨_, ?_, hasDerivAt_sum_map direction size each⟩
  rw [moved_zero]
  exact if_pos (by simpa using size)

/-- In every direction the gradient that an activation makes from its outputs gives the
derivative of the weighted sum of the outputs. -/
theorem gradient_hasDerivAt (activation : Activation) {layout : Layout} (rowMajor : layout.RowMajor)
    {inputs weights : Array ℝ} (size : inputs.size = layout.count)
    (weightsSize : weights.size = layout.count) (smooth : activation = .relu → ∀ x ∈ inputs, x ≠ 0)
    (direction : Nat → ℝ) :
    ∃ (outputs : ℝ → Array ℝ) (gradients : Array ℝ),
      (∀ t, activation.apply (moved inputs direction t) layout = .ok (outputs t)) ∧
      activation.gradient weights (outputs 0) layout = .ok gradients ∧
      HasDerivAt (fun t => ∑ i ∈ Finset.range inputs.size, cell weights i * cell (outputs t) i)
        (∑ i ∈ Finset.range inputs.size, cell gradients i * direction i) 0 := by
  have same := weightsSize.trans size.symm
  cases activation with
  | softmax =>
    have fits (t : ℝ) : (moved inputs direction t).size = layout.count := (size_cells ..).trans size
    refine ⟨_, _, fun t => apply_softmax (fits t),
      gradient_softmax weightsSize (size_ofLanes ..), ?_⟩
    rw [moved_zero, size]
    exact hasDerivAt_sum_softmax rowMajor size weights direction
  | sigmoid =>
    obtain ⟨gradients, ran, differentiable⟩ :=
      elementwise_hasDerivAt direction same fun x _ => logistic_differentiates x
    exact ⟨_, gradients, fun t => rfl, ran, differentiable⟩
  | relu =>
    obtain ⟨gradients, ran, differentiable⟩ :=
      elementwise_hasDerivAt direction same fun x member =>
        rectify_differentiates (smooth rfl x member)
    exact ⟨_, gradients, fun t => rfl, ran, differentiable⟩
  | tanh =>
    obtain ⟨gradients, ran, differentiable⟩ :=
      elementwise_hasDerivAt direction same fun x _ => tanh_differentiates x
    exact ⟨_, gradients, fun t => rfl, ran, differentiable⟩

end Activation

end TensorEngine

import Mathlib.Algebra.BigOperators.Field
import Mathlib.Algebra.Order.BigOperators.Group.Finset
import Mathlib.Algebra.Order.Field.Basic
import TensorEngine.Proofs.Activation.Lane

/-! Softmax of one lane in exact arithmetic. Forward, the greatest input has weight one, so
the divisor is at least one and the outputs share out one in the order of the inputs.
Backward, a lane is projected by a symmetric matrix whose rows sum to nothing where the
outputs sum to one. -/

set_option autoImplicit false

namespace TensorEngine

/-- What softmax asks of the exponential: it is positive, keeps the order and is one at zero. -/
class LawfulExp (α : Type) [Zero α] [One α] [Preorder α] [Elementary α] : Prop where
  exp_pos (a : α) : 0 < Elementary.exp a
  exp_mono : Monotone (Elementary.exp : α → α)
  exp_zero : Elementary.exp (0 : α) = 1

namespace Activation

variable {α : Type}

/-- What the weights of a lane are divided by. -/
def laneDivisor [Zero α] [Add α] [Sub α] [LT α] [LE α] [DecidableLT α] [DecidableLE α]
    [Elementary α] (adjacent : Bool) (lane : List α) : α :=
  sumRun adjacent (laneWeights lane).length fun i => (laneWeights lane).getD i 0

theorem laneSoftmax_eq [Zero α] [Add α] [Sub α] [Div α] [LT α] [LE α] [DecidableLT α]
    [DecidableLE α] [Elementary α] (adjacent : Bool) (lane : List α) :
    laneSoftmax adjacent lane = (laneWeights lane).map (· / laneDivisor adjacent lane) := rfl

/-! The greatest element. -/

section

variable [LinearOrder α]

-- Every value of a linear order is a number, so none is passed over.
theorem peak_concat (lane : List α) (value : α) :
    peak (lane ++ [value]) = some ((peak lane).elim value (max · value)) := by
  unfold peak
  rw [List.foldl_append, List.foldl_cons, List.foldl_nil, if_pos le_rfl]
  cases lane.foldl _ none with
  | none => rfl
  | some greatest =>
    by_cases less : greatest < value
    · simp [less, less.le]
    · simp [less, not_lt.mp less]

theorem peak_eq_max? (lane : List α) : peak lane = lane.max? := by
  induction lane using List.reverseRecOn with
  | nil => rfl
  | append_singleton lane value ih =>
    rw [peak_concat, ih]
    cases lane with
    | nil => rfl
    | cons first rest =>
      rw [List.cons_append, List.max?_cons', List.max?_cons', List.foldl_append]
      rfl

theorem peak_eq_some_iff {lane : List α} {greatest : α} :
    peak lane = some greatest ↔ greatest ∈ lane ∧ ∀ value ∈ lane, value ≤ greatest := by
  rw [peak_eq_max?]
  exact List.max?_eq_some_iff

theorem exists_peak {lane : List α} (nonempty : lane ≠ []) :
    ∃ greatest, peak lane = some greatest := by
  rw [peak_eq_max?]
  exact Option.isSome_iff_exists.mp (List.isSome_max?_of_ne_nil nonempty)

end

/-! Forward. -/

/-- Outputs that share out one among the channels of a lane, in the order of its inputs. -/
structure Normalised [Field α] [LinearOrder α] [Elementary α] (count : Nat)
    (inputs outputs : Nat → α) (divisor : α) :
    Prop where
  one_le : 1 ≤ divisor
  -- Every output is a weight over the divisor, and the greatest input has weight one.
  quotient : ∃ top < count, (∀ k < count, inputs k ≤ inputs top) ∧
    ∀ k < count, outputs k = Elementary.exp (inputs k - inputs top) / divisor
  positive : ∀ k < count, 0 < outputs k
  le_one : ∀ k < count, outputs k ≤ 1
  total : ∑ k ∈ Finset.range count, outputs k = 1
  ordered : ∀ i < count, ∀ j < count, inputs i ≤ inputs j → outputs i ≤ outputs j
  -- Nothing is tied that was not, if the exponential tells its arguments apart.
  separated : StrictMono (Elementary.exp : α → α) → ∀ i < count, ∀ j < count, inputs i < inputs j →
    outputs i < outputs j

section

variable [Field α] [LinearOrder α] [IsStrictOrderedRing α] [Elementary α]

theorem normalised_of_quotients [LawfulExp α] {count top : Nat} (inside : top < count)
    {inputs outputs : Nat → α} {divisor : α} (greatest : ∀ k < count, inputs k ≤ inputs top)
    (sum : divisor = ∑ k ∈ Finset.range count, Elementary.exp (inputs k - inputs top))
    (quotient : ∀ k < count, outputs k = Elementary.exp (inputs k - inputs top) / divisor) :
    Normalised count inputs outputs divisor := by
  let weight (k : Nat) : α := Elementary.exp (inputs k - inputs top)
  have positive (k : Nat) : 0 < weight k := LawfulExp.exp_pos _
  have part {k : Nat} (within : k < count) : weight k ≤ divisor :=
    sum ▸ Finset.single_le_sum (fun i _ => (positive i).le) (Finset.mem_range.mpr within)
  have attained : weight top = 1 := by
    change Elementary.exp (inputs top - inputs top) = 1
    rw [sub_self, LawfulExp.exp_zero]
  have one_le : 1 ≤ divisor := attained.ge.trans (part inside)
  have divides : 0 < divisor := one_pos.trans_le one_le
  refine ⟨one_le, ⟨top, inside, greatest, quotient⟩, fun k within => ?_, fun k within => ?_, ?_,
    fun i inI j inJ less => ?_, fun strict i inI j inJ less => ?_⟩
  · rw [quotient k within]
    exact div_pos (positive k) divides
  · rw [quotient k within]
    exact (div_le_one divides).mpr (part within)
  · rw [Finset.sum_congr rfl fun k member => quotient k (Finset.mem_range.mp member),
      ← Finset.sum_div, ← sum]
    exact div_self divides.ne'
  · rw [quotient i inI, quotient j inJ]
    exact div_le_div_of_nonneg_right (LawfulExp.exp_mono (sub_le_sub_right less _)) divides.le
  · rw [quotient i inI, quotient j inJ]
    exact div_lt_div_of_pos_right (strict (sub_lt_sub_right less _)) divides

/-- The weights of a lane see differences only, so a constant that is added to all inputs is
not seen. -/
theorem laneWeights_shift (lane : List α) (shift : α) :
    laneWeights (lane.map (· + shift)) = laneWeights lane := by
  by_cases empty : lane = []
  · rw [empty]
    rfl
  · obtain ⟨greatest, found⟩ := exists_peak empty
    obtain ⟨member, least⟩ := peak_eq_some_iff.mp found
    have moved : peak (lane.map (· + shift)) = some (greatest + shift) := by
      refine peak_eq_some_iff.mpr ⟨List.mem_map_of_mem member, fun value listed => ?_⟩
      obtain ⟨before, inLane, rfl⟩ := List.mem_map.mp listed
      exact add_le_add_left (least before inLane) shift
    unfold laneWeights
    rw [found, moved]
    simp

theorem laneSoftmax_shift (adjacent other : Bool) (lane : List α) (shift : α) :
    laneSoftmax other (lane.map (· + shift)) = laneSoftmax adjacent lane := by
  rw [laneSoftmax_eq, laneSoftmax_eq]
  unfold laneDivisor
  rw [sumRun_eq_sum, sumRun_eq_sum, laneWeights_shift]

/-- Whatever holds the inputs of a lane and whatever holds its outputs. -/
theorem normalised_laneSoftmax [LawfulExp α] (adjacent : Bool) {lane : List α}
    (nonempty : lane ≠ []) {inputs outputs : Nat → α}
    (given : ∀ k < lane.length, lane.getD k 0 = inputs k)
    (made : ∀ k < lane.length, outputs k = (laneSoftmax adjacent lane).getD k 0) :
    Normalised lane.length inputs outputs (laneDivisor adjacent lane) := by
  obtain ⟨greatest, found⟩ := exists_peak nonempty
  obtain ⟨member, least⟩ := peak_eq_some_iff.mp found
  obtain ⟨top, inside, same⟩ := List.getElem_of_mem member
  have input {k : Nat} (within : k < lane.length) : lane[k] = inputs k := by
    rw [← given k within]
    simp [within]
  rw [input inside] at same
  have length : (laneWeights lane).length = lane.length := List.length_map ..
  have weight {k : Nat} (within : k < lane.length) :
      (laneWeights lane).getD k 0 = Elementary.exp (inputs k - inputs top) := by
    unfold laneWeights
    rw [found, same]
    simp [within, input]
  refine normalised_of_quotients inside (fun k within => ?_) ?_ fun k within => ?_
  · rw [same, ← input within]
    exact least _ (List.getElem_mem within)
  · unfold laneDivisor
    rw [sumRun_eq_sum, length]
    exact Finset.sum_congr rfl fun k listed => weight (Finset.mem_range.mp listed)
  · rw [made k within, ← weight within, laneSoftmax_eq]
    simp [List.getD_eq_getElem?_getD, length, within]

end

/-! Backward. -/

section

variable [CommRing α] (count : Nat) (outputs gradients : Nat → α)

/-- What the gradients along a lane are turned into by its outputs. -/
def projected (k : Nat) : α :=
  outputs k * (gradients k - ∑ j ∈ Finset.range count, outputs j * gradients j)

theorem sum_projected_mul (others : Nat → α) :
    ∑ k ∈ Finset.range count, projected count outputs gradients k * others k =
      ∑ k ∈ Finset.range count, outputs k * gradients k * others k -
        (∑ k ∈ Finset.range count, outputs k * gradients k) * ∑ k ∈ Finset.range count,
          outputs k * others k := by
  let mean := ∑ j ∈ Finset.range count, outputs j * gradients j
  calc ∑ k ∈ Finset.range count, projected count outputs gradients k * others k
      = ∑ k ∈ Finset.range count,
          (outputs k * gradients k * others k - mean * (outputs k * others k)) :=
        Finset.sum_congr rfl fun k _ => by unfold projected; ring
    _ = _ := by rw [Finset.sum_sub_distrib, ← Finset.mul_sum]

-- What is left of the two gradients in the sum above treats them alike.
theorem projected_symmetric (others : Nat → α) :
    ∑ k ∈ Finset.range count, projected count outputs gradients k * others k =
      ∑ k ∈ Finset.range count, gradients k * projected count outputs others k := by
  simp only [mul_comm (gradients _)]
  rw [sum_projected_mul, sum_projected_mul,
    mul_comm (∑ k ∈ Finset.range count, outputs k * others k)]
  simp only [mul_right_comm (outputs _)]

variable {outputs} (whole : ∑ k ∈ Finset.range count, outputs k = 1)

include whole

theorem sum_projected : ∑ k ∈ Finset.range count, projected count outputs gradients k = 0 := by
  unfold projected
  simp only [mul_sub]
  rw [Finset.sum_sub_distrib, ← Finset.sum_mul, whole, one_mul, sub_self]

variable {gradients}

theorem projected_shift {others : Nat → α} (shift : α)
    (moved : ∀ k < count, others k = gradients k + shift) {k : Nat} (inside : k < count) :
    projected count outputs others k = projected count outputs gradients k := by
  have mean : ∑ j ∈ Finset.range count, outputs j * others j =
      ∑ j ∈ Finset.range count, outputs j * gradients j + shift := by
    calc ∑ j ∈ Finset.range count, outputs j * others j
        = ∑ j ∈ Finset.range count, (outputs j * gradients j + outputs j * shift) :=
          Finset.sum_congr rfl fun j member => by rw [moved j (Finset.mem_range.mp member), mul_add]
      _ = _ := by rw [Finset.sum_add_distrib, ← Finset.sum_mul, whole, one_mul]
  unfold projected
  rw [mean, moved k inside, add_sub_add_right_eq_sub]

end

end Activation

end TensorEngine

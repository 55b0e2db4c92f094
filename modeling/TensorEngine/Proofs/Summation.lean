import Mathlib.Algebra.BigOperators.Group.Finset.Basic
import Mathlib.Algebra.BigOperators.Group.Finset.Sigma
import Mathlib.Algebra.Ring.Defs
import TensorEngine.Proofs.Storage
import TensorEngine.Summation

/-! Ordered sums in exact arithmetic. Where addition is associative and commutative
the order of a list is lost, and nested loops over ranges become nested sums. -/

set_option autoImplicit false

namespace TensorEngine

variable {α γ : Type}

section

variable [AddCommMonoid α]

theorem foldl_add_eq_sum (items : List γ) (term : γ → α) (start : α) :
    items.foldl (fun total item => total + term item) start = start + (items.map term).sum := by
  induction items generalizing start with
  | nil => simp
  | cons item rest ih => simp [ih, add_assoc]

theorem sum_flatMap_range (count : Nat) (pass : Nat → List γ) (term : γ → α) :
    (((List.range count).flatMap pass).map term).sum =
      ∑ i ∈ Finset.range count, ((pass i).map term).sum := by
  induction count with
  | zero => rfl
  | succ count ih => simp [List.range_succ, Finset.sum_range_succ, ih]

theorem sum_filterMap_range (count : Nat) (choose : Nat → Option γ) (term : γ → α) :
    (((List.range count).filterMap choose).map term).sum =
      ∑ i ∈ Finset.range count, (choose i).elim 0 term := by
  induction count with
  | zero => rfl
  | succ count ih =>
    rw [List.range_succ, List.filterMap_append, List.map_append, List.sum_append, ih,
      Finset.sum_range_succ]
    cases chosen : choose count <;> simp [chosen]

theorem sum_range_mul (rows cols : Nat) (term : Nat → α) :
    ∑ i ∈ Finset.range (rows * cols), term i =
      ∑ row ∈ Finset.range rows, ∑ col ∈ Finset.range cols, term (row * cols + col) := by
  induction rows with
  | zero => simp
  | succ rows ih => rw [Nat.succ_mul, Finset.sum_range_add, ih, Finset.sum_range_succ]

theorem sumInOrder_eq_sum (count : Nat) (term : Nat → α) :
    sumInOrder count term = ∑ i ∈ Finset.range count, term i := by
  unfold sumInOrder
  rw [foldl_add_eq_sum, zero_add]
  rfl

-- Eight stripes are the eight remainders of a block, and what is left follows the full blocks.
theorem sumStriped_eq_sum (count : Nat) (term : Nat → α) :
    sumStriped count term = ∑ i ∈ Finset.range count, term i := by
  let blocks := count / 8
  let remainder (first : Nat) : α := ∑ block ∈ Finset.range blocks, term (8 * block + first)
  have joined : sumInOrder 4
      (fun first => stripe blocks first term + stripe blocks (first + 4) term) =
        ∑ i ∈ Finset.range (blocks * 8), term i :=
    calc sumInOrder 4 (fun first => stripe blocks first term + stripe blocks (first + 4) term)
        = ∑ first ∈ Finset.range 4, (remainder first + remainder (4 + first)) := by
          simp only [sumInOrder_eq_sum, stripe, remainder, Nat.add_comm]
      _ = ∑ first ∈ Finset.range 8, remainder first := by
          rw [Finset.sum_add_distrib, Finset.sum_range_add remainder 4 4]
      _ = ∑ block ∈ Finset.range blocks, ∑ first ∈ Finset.range 8,
          term (8 * block + first) := Finset.sum_comm
      _ = ∑ i ∈ Finset.range (blocks * 8), term i := by
          rw [sum_range_mul]
          simp only [Nat.mul_comm]
  unfold sumStriped
  dsimp only
  rw [foldl_add_eq_sum, joined]
  change _ + ∑ i ∈ Finset.range (count % 8), term (8 * blocks + i) = _
  rw [Nat.mul_comm 8, ← Finset.sum_range_add, Nat.div_add_mod']

/-- In exact arithmetic a run has one sum, however its terms are added. -/
theorem sumRun_eq_sum (adjacent : Bool) (count : Nat) (term : Nat → α) :
    sumRun adjacent count term = ∑ i ∈ Finset.range count, term i := by
  cases adjacent with
  | true => exact sumStriped_eq_sum count term
  | false => exact sumInOrder_eq_sum count term

-- At most one index of a range is found, so a sum over the range has at most one term.
theorem sum_ite_found {count : Nat} {holds : Nat → Prop} [DecidablePred holds] {found : Option Nat}
    (iff : ∀ i, found = some i ↔ holds i ∧ i < count) (term : Nat → α) :
    ∑ i ∈ Finset.range count, (if holds i then term i else 0) = found.elim 0 term := by
  cases found with
  | none =>
    refine Finset.sum_eq_zero fun i inside => if_neg fun held => ?_
    have impossible := (iff i).mpr ⟨held, Finset.mem_range.mp inside⟩
    cases impossible
  | some i =>
    obtain ⟨held, inside⟩ := (iff i).mp rfl
    rw [Finset.sum_eq_single_of_mem i (Finset.mem_range.mpr inside), if_pos held]
    · rfl
    · intro other within different
      refine if_neg fun otherHeld => different ?_
      exact (Option.some.inj ((iff other).mpr ⟨otherHeld, Finset.mem_range.mp within⟩)).symm

namespace Buffer

theorem collected_eq_sum (target values : Array α) (moves : List (Nat × Nat)) (i : Nat) :
    collected target values moves i =
      cell target i + (moves.map fun move => if move.1 = i then cell values move.2 else 0).sum := by
  unfold collected
  rw [foldl_add_eq_sum]
  congr 1
  induction moves with
  | nil => rfl
  | cons move rest ih => by_cases same : move.1 = i <;> simp [same, ih]

end Buffer

end

namespace Buffer

/-- What a call has added to a cell of its destination. -/
def increment [AddGroup α] (before after : Array α) (i : Nat) : α := cell after i - cell before i

theorem increment_cells [AddCommGroup α] {before : Array α} (share : Nat → α) {count i : Nat}
    (inside : i < count) :
    increment before (cells count fun j => cell before j + share j) i = share i := by
  unfold increment
  rw [cell_cells _ inside]
  exact add_sub_cancel_left _ _

theorem sumAlong_eq_sum [NonUnitalNonAssocSemiring α] (left right : Array α)
    (offsets : List (Nat × Nat)) :
    sumAlong left right offsets =
      (offsets.map fun pair => cell left pair.1 * cell right pair.2).sum := by
  unfold sumAlong
  rw [foldl_add_eq_sum, zero_add]

end Buffer

end TensorEngine

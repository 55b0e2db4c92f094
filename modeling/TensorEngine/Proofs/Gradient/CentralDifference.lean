import Mathlib.Algebra.Polynomial.Derivative
import Mathlib.RingTheory.Polynomial.SmallDegreeVieta
import Mathlib.Tactic.ComputeDegree
import Mathlib.Tactic.FieldSimp
import Mathlib.Tactic.Ring
import TensorEngine.Gradient.Numerical
import TensorEngine.Proofs.Gradient.Restoration

/-! Where a numerical gradient evaluates its objective, and what it makes of the answers.
Each element has two evaluations, and both find all others as they were at first. Central
differences of a quadratic are its derivative, whatever their step. -/

set_option autoImplicit false

namespace TensorEngine.Gradient

variable {α : Type}

/-- The elements of a tensor at the evaluations, for its elements from a position on. -/
def pointsFrom [Add α] [Sub α] (initial : Array α) (epsilon : α) (rest : List α) (position : Nat) :
    List (Array α) :=
  (rest.zipIdx position).flatMap fun (value, position) =>
    [moved initial position (value + epsilon), moved initial position (value - epsilon)]

def points [Add α] [Sub α] (initial : Array α) (epsilon : α) : List (Array α) :=
  pointsFrom initial epsilon initial.toList 0

/-- The heaps that an objective meets, evaluated at one point after another. Each
evaluation finds what the one before has left, but for the elements of the input. -/
def visits (objective : Objective α) (input : Handle) : List (Array α) → Heap α → List (Heap α)
  | [], _ => []
  | values :: rest, heap =>
    let visit := heap.store input values
    visit :: visits objective input rest (objective visit).state

/-- What the last of these evaluations leaves. -/
def left (objective : Objective α) (input : Handle) : List (Array α) → Heap α → Heap α
  | [], heap => heap
  | values :: rest, heap => left objective input rest (objective (heap.store input values)).state

/-- The slopes between answers that come in pairs. -/
def slopes [Sub α] [Mul α] [Div α] [OfNat α 2] (epsilon : α) : List α → List α
  | plus :: minus :: rest => (plus - minus) / (2 * epsilon) :: slopes epsilon rest
  | _ => []

/-- An objective answers on a heap and leaves the input alone. -/
structure Answers (objective : Objective α) (input : Handle) (value : Heap α → α)
    (heap : Heap α) : Prop where
  answer : (objective heap).answer = .ok (value heap)
  valid : heap.Valid input → (objective heap).state.Valid input
  get : (objective heap).state.get input = heap.get input

variable {objective other : Objective α} {input : Handle} {value : Heap α → α} {tensor : Tensor α}
  {values old : Array α} {heap : Heap α}

theorem Answers.holds (answers : Answers objective input value heap)
    (holds : Holds input tensor values heap) :
    Holds input tensor values (objective heap).state :=
  ⟨answers.valid holds.valid, answers.get.trans holds.get⟩

theorem Answers.congr (answers : Answers objective input value heap)
    (same : other heap = objective heap) :
    Answers other input value heap :=
  ⟨same ▸ answers.answer, same ▸ answers.valid, same ▸ answers.get⟩

/-- Every visit holds the point it is made for, and nothing else of the input has changed. -/
theorem get_visits {rest : List (Array α)} (sizes : ∀ values ∈ rest, values.size = tensor.data.size)
    (holds : Holds input tensor old heap) (size : old.size = tensor.data.size)
    (answers : ∀ visit ∈ visits objective input rest heap, Answers objective input value visit) :
    (visits objective input rest heap).map (·.get input) =
      rest.map ({ tensor with data := · }) := by
  induction rest generalizing heap old with
  | nil => rfl
  | cons values rest ih =>
    obtain ⟨here, later⟩ := List.forall_mem_cons.mp answers
    obtain ⟨same, others⟩ := List.forall_mem_cons.mp sizes
    obtain ⟨-, held⟩ := holds.setHost (size.trans same.symm)
    exact congrArg₂ _ held.get (ih others (here.holds held) same later)

theorem length_visits (rest : List (Array α)) :
    (visits objective input rest heap).length = rest.length := by
  induction rest generalizing heap with
  | nil => rfl
  | cons values rest ih => exact congrArg (· + 1) ih

-- Two objectives that agree wherever the one is evaluated are evaluated on the same heaps.
theorem visits_congr {rest : List (Array α)}
    (agree : ∀ visit ∈ visits objective input rest heap, other visit = objective visit) :
    visits other input rest heap = visits objective input rest heap ∧
      left other input rest heap = left objective input rest heap := by
  induction rest generalizing heap with
  | nil => exact ⟨rfl, rfl⟩
  | cons values rest ih =>
    obtain ⟨here, later⟩ := List.forall_mem_cons.mp agree
    obtain ⟨same, last⟩ := ih later
    simp only [visits, left, here, same, last, and_self]

section

variable [Add α] [Sub α] {initial : Array α} {epsilon : α}

theorem pointsFrom_nil (initial : Array α) (epsilon : α) (position : Nat) :
    pointsFrom initial epsilon [] position = [] := rfl

theorem pointsFrom_cons (initial : Array α) (epsilon element : α) (rest : List α) (position : Nat) :
    pointsFrom initial epsilon (element :: rest) position =
      moved initial position (element + epsilon) :: moved initial position (element - epsilon) ::
        pointsFrom initial epsilon rest (position + 1) := rfl

theorem size_of_mem_pointsFrom {rest : List α} {position : Nat}
    (member : values ∈ pointsFrom initial epsilon rest position) :
    values.size = initial.size := by
  obtain ⟨⟨element, index⟩, -, point⟩ := List.mem_flatMap.mp member
  rcases List.mem_pair.mp point with rfl | rfl
  all_goals exact size_moved ..

theorem length_points (initial : Array α) (epsilon : α) :
    (points initial epsilon).length = 2 * initial.size := by
  simp [points, pointsFrom, List.length_flatMap, Nat.mul_comm]

variable [Mul α] [Div α] [OfNat α 2]

/-- One element: two evaluations, the slope between them, and the buffer that it starts with. -/
theorem difference_of_answers (holds : Holds input tensor old heap)
    (size : old.size = tensor.data.size) {position : Nat} {element : α}
    (place : tensor.data[position]? = some element) :
    let up := heap.store input (moved tensor.data position (element + epsilon))
    let down := (objective up).state.store input (moved tensor.data position (element - epsilon))
    Answers objective input value up → Answers objective input value down →
      difference objective input epsilon position element tensor.data heap =
          ⟨.ok ((value up - value down) / (2 * epsilon), tensor.data), (objective down).state,
            (objective up).events ++ (objective down).events⟩ ∧
        Holds input tensor (moved tensor.data position (element - epsilon))
          (objective down).state := by
  intro up down upper lower
  have sizeUp : old.size = (moved tensor.data position (element + epsilon)).size :=
    size.trans (size_moved ..).symm
  have held := upper.holds (holds.setHost sizeUp).2
  have sizeDown := (size_moved tensor.data position (element + epsilon)).trans
    (size_moved tensor.data position (element - epsilon)).symm
  refine ⟨?_, lower.holds (held.setHost sizeDown).2⟩
  rw [difference_eq place, evaluateAt_eq holds sizeUp, Outcome.andThen_of_ok _ upper.answer,
    evaluateAt_eq held sizeDown]
  unfold Outcome.map
  rw [lower.answer]
  rfl

/-- All elements from a position on, each starting with the initial elements in the buffer. -/
theorem differences_of_answers (rest : List α) (position : Nat) (found : Array α)
    (holds : Holds input tensor old heap) (size : old.size = tensor.data.size)
    (remaining : tensor.data.toList.drop position = rest) :
    let made := pointsFrom tensor.data epsilon rest position
    (∀ visit ∈ visits objective input made heap, Answers objective input value visit) →
      differences objective input epsilon rest position tensor.data found heap =
          ⟨.ok (found ++ (slopes epsilon ((visits objective input made heap).map value)).toArray),
            left objective input made heap,
            (visits objective input made heap).flatMap fun visit => (objective visit).events⟩ ∧
        ∃ last, last.size = tensor.data.size ∧
          Holds input tensor last (left objective input made heap) := by
  induction rest generalizing position found old heap with
  | nil =>
    intro made answers
    exact ⟨by simp [made, pointsFrom_nil, differences, visits, left, slopes, Outcome.done], old,
      size, holds⟩
  | cons element rest ih =>
    intro made answers
    obtain ⟨place, later⟩ := placed_of_drop remaining
    obtain ⟨upper, answers⟩ := List.forall_mem_cons.mp answers
    obtain ⟨lower, answers⟩ := List.forall_mem_cons.mp answers
    obtain ⟨first, held⟩ := difference_of_answers holds size place upper lower
    obtain ⟨further, last⟩ := ih (position + 1) (found.push _) held (size_moved ..) later answers
    refine ⟨?_, last⟩
    unfold differences
    rw [first, Outcome.andThen_of_ok _ rfl]
    dsimp only
    rw [further]
    simp [made, pointsFrom_cons, visits, left, slopes, Outcome.after]

theorem numerical_of_answers (valid : heap.Valid input) :
    let made := points (heap.data input) epsilon
    (∀ visit ∈ visits objective input made heap, Answers objective input value visit) →
      numerical objective input epsilon heap =
        ⟨.ok (slopes epsilon ((visits objective input made heap).map value)).toArray,
          (left objective input made heap).store input (heap.data input),
          (visits objective input made heap).flatMap fun visit => (objective visit).events⟩ := by
  intro made answers
  have begins : Holds input (heap.get input) (heap.data input) heap := ⟨valid, rfl⟩
  obtain ⟨all, last, size, held⟩ :=
    differences_of_answers (heap.data input).toList 0 #[] begins rfl rfl answers
  have unchanged : last.size = (heap.data input).size := size
  obtain ⟨restored, -⟩ := held.setHost unchanged
  unfold numerical
  change (differences objective input epsilon _ 0 (heap.get input).data #[] heap).andThen _ = _
  rw [all, Outcome.andThen_of_ok _ rfl, restored, Array.empty_append]
  exact congrArg (Outcome.mk _ _) (List.append_nil _)

omit [Add α] in
theorem length_slopes (epsilon : α) :
    ∀ answers : List α, (slopes epsilon answers).length = answers.length / 2
  | [] | [_] => by simp [slopes]
  | plus :: minus :: rest => by
    have rest := length_slopes epsilon rest
    simp only [slopes, List.length_cons]
    omega

-- An objective of the input alone is evaluated at the points themselves.
theorem slopes_pointsFrom (f : Array α → α) (initial : Array α) (rest : List α) (position : Nat) :
    slopes epsilon ((pointsFrom initial epsilon rest position).map f) =
      (rest.zipIdx position).map fun (element, position) =>
        (f (moved initial position (element + epsilon)) -
          f (moved initial position (element - epsilon))) / (2 * epsilon) := by
  induction rest generalizing position with
  | nil => rfl
  | cons element rest ih => exact congrArg _ (ih (position + 1))

end

section

variable [Field α] [CharZero α] {epsilon : α}

theorem central_difference_quadratic {p : Polynomial α} (quadratic : p.degree ≤ 2)
    (moves : epsilon ≠ 0) (middle : α) :
    (p.eval (middle + epsilon) - p.eval (middle - epsilon)) / (2 * epsilon) =
      p.derivative.eval middle := by
  rw [Polynomial.eq_quadratic_of_degree_le_two quadratic]
  simp only [Polynomial.derivative_add, Polynomial.derivative_C_mul, Polynomial.derivative_X_sq,
    Polynomial.derivative_X, Polynomial.derivative_C, Polynomial.eval_add, Polynomial.eval_mul,
      Polynomial.eval_pow,
    Polynomial.eval_C, Polynomial.eval_X, Polynomial.eval_one, Polynomial.eval_zero]
  field_simp
  ring

/-- A numerical gradient evaluates its objective twice for each element, with all others as
they were, and nowhere else. Where the objective is a polynomial of at most the second degree
in one element, the entry for that element is its partial derivative. -/
theorem numerical_exact_on_quadratics (valid : heap.Valid input) (moves : epsilon ≠ 0)
    (answers : ∀ visit ∈ visits objective input (points (heap.data input) epsilon) heap,
      Answers objective input value visit) :
    let initial := heap.data input
    let visited := visits objective input (points initial epsilon) heap
    let called := numerical objective input epsilon heap
    visited.length = 2 * initial.size ∧
      visited.map (·.get input) = (points initial epsilon).map ({ heap.get input with data := · }) ∧
      called.events = visited.flatMap (fun visit => (objective visit).events) ∧
      (∀ other, (∀ visit ∈ visited, other visit = objective visit) →
        numerical other input epsilon heap = called) ∧
      ∃ gradient, called.answer = .ok gradient ∧
        gradient.toList = slopes epsilon (visited.map value) ∧
        gradient.size = initial.size ∧ ∀ f : Array α →
          α, (∀ visit ∈ visited, value visit = f (visit.data input)) →
          ∀ (position : Nat) (element : α) (p : Polynomial α), initial[position]? = some element →
            p.degree ≤ 2 →
            (∀ moving, f (moved initial position moving) = p.eval moving) →
              gradient[position]? = some (p.derivative.eval element) := by
  intro initial visited called
  have ran : called = ⟨_, _, _⟩ := numerical_of_answers valid answers
  have begins : Holds input (heap.get input) initial heap := ⟨valid, rfl⟩
  have length : visited.length = 2 * initial.size := (length_visits _).trans (length_points ..)
  have contents : visited.map (·.get input) =
      (points initial epsilon).map ({ heap.get input with data := · }) :=
    get_visits (fun _ => size_of_mem_pointsFrom) begins rfl answers
  refine ⟨length, contents, by rw [ran], fun other agree => ?_, _, by rw [ran], rfl, ?_,
    fun f values position element p place quadratic moving => ?_⟩
  · obtain ⟨same, last⟩ := visits_congr agree
    have also : ∀ visit ∈ visits other input (points initial epsilon) heap,
        Answers other input value visit :=
      same.symm ▸ fun visit member => (answers visit member).congr (agree visit member)
    rw [ran, numerical_of_answers valid also, same, last]
    exact congrArg (Outcome.mk _ _)
      (List.flatMap_congr fun visit member => congrArg _ (agree visit member))
  · change (slopes epsilon (visited.map value)).length = initial.size
    rw [length_slopes, List.length_map, length, Nat.mul_div_cancel_left _ Nat.two_pos]
  · have met : visited.map value = (points initial epsilon).map f := calc
      _ = (visited.map (·.get input)).map (fun tensor => f tensor.data) := by
        rw [List.map_map]
        exact List.map_congr_left values
      _ = (points initial epsilon).map f := by
        rw [contents, List.map_map]
        rfl
    have slope := central_difference_quadratic quadratic moves element
    rw [met, points, slopes_pointsFrom]
    simp [List.getElem?_zipIdx, place, moving, slope]

end

theorem numerical_exact_on_product :
    let heap : Heap ℚ := ⟨#[⟨Descriptor.new.setSize ⟨1, 1, 1, 2⟩, #[3, -2]⟩]⟩
    let input : Handle := ⟨0⟩
    let square (values : Array ℚ) : ℚ := (values.getD 0 0 * values.getD 1 0) ^ 2 + values.getD 1 0
    let objective : Objective ℚ :=
      fun heap => ⟨.ok (square (heap.data input)), heap, [.reallocated 1]⟩
    let called := numerical objective input (1 / 2) heap
    called.events.length = 4 ∧ ∃ gradient, called.answer = .ok gradient ∧
      gradient.size = 2 ∧ gradient[0]? = some (24 : ℚ) ∧ gradient[1]? = some (-35 : ℚ) := by
  intro heap input square objective called
  have valid : heap.Valid input := by decide
  have answers (visit : Heap ℚ) :
      Answers objective input (fun heap => square (heap.data input)) visit :=
    ⟨rfl, id, rfl⟩
  have moves : (1 / 2 : ℚ) ≠ 0 := by norm_num
  obtain ⟨length, -, events, -, gradient, answered, -, size, entries⟩ :=
    numerical_exact_on_quadratics valid moves fun visit _ => answers visit
  have entry := entries square fun _ _ => rfl
  have alongFirst (moving : ℚ) :
      square (moved #[3, -2] 0 moving) = (.C 4 * .X ^ 2 - .C 2 : Polynomial ℚ).eval moving := by
    change (moving * -2) ^ 2 + -2 = _
    simp only [Polynomial.eval_sub, Polynomial.eval_mul, Polynomial.eval_pow, Polynomial.eval_C,
      Polynomial.eval_X]
    ring
  have alongSecond (moving : ℚ) :
      square (moved #[3, -2] 1 moving) = (.C 9 * .X ^ 2 + .X : Polynomial ℚ).eval moving := by
    change (3 * moving) ^ 2 + moving = _
    simp only [Polynomial.eval_add, Polynomial.eval_mul, Polynomial.eval_pow, Polynomial.eval_C,
      Polynomial.eval_X]
    ring
  have first := entry 0 3 _ rfl (by compute_degree) alongFirst
  have second := entry 1 (-2) _ rfl (by compute_degree) alongSecond
  refine ⟨?_, gradient, answered, size, ?_, ?_⟩
  · calc called.events.length
      _ = (visits objective input (points (heap.data input) (1 / 2)) heap).length := by
        rw [events, List.length_flatMap]
        simp [objective]
      _ = 4 := length
  · rw [first]
    norm_num
  · rw [second]
    norm_num

end TensorEngine.Gradient

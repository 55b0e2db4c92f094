import TensorEngine.Heap.Basic

/-! Numerical gradients by central differences. One element after another is moved
up, then down, in a buffer that starts with the initial elements, and put back there. -/

set_option autoImplicit false

namespace TensorEngine.Gradient

variable {α : Type}

/-- A scalar function of the heap, evaluated with its effects. -/
abbrev Objective (α : Type) := Heap α → Outcome (Heap α) (Event α) α

def moved (values : Array α) (position : Nat) (value : α) : Array α :=
  values.setIfInBounds position value

theorem size_moved (values : Array α) (position : Nat) (value : α) :
    (moved values position value).size = values.size :=
  Array.size_setIfInBounds ..

/-- Of two moves of one element the second remains. -/
theorem moved_moved (values : Array α) (position : Nat) (first second : α) :
    moved (moved values position first) position second = moved values position second :=
  Array.setIfInBounds_setIfInBounds ..

theorem moved_back {values : Array α} {position : Nat} {value : α}
    (place : values[position]? = some value) :
    moved values position value = values := by
  obtain ⟨inside, rfl⟩ := Array.getElem?_eq_some_iff.mp place
  rw [moved, Array.setIfInBounds_def, dif_pos inside]
  exact Array.set_getElem_self inside

def evaluateAt (objective : Objective α) (input : Handle) (values : Array α) (heap : Heap α) :
    Outcome (Heap α) (Event α) α :=
  (heap.setHost input values).andThen fun _ heap => objective heap

variable [Add α] [Sub α] [Mul α] [Div α] [OfNat α 2]

/-- The slope in one element, and the buffer after it. The second evaluation overwrites what
the first has put in place, and the element is put back after both. -/
def difference (objective : Objective α) (input : Handle) (epsilon : α) (position : Nat) (value : α)
    (buffer : Array α) (heap : Heap α) : Outcome (Heap α) (Event α) (α × Array α) :=
  let raised := moved buffer position (value + epsilon)
  let lowered := moved raised position (value - epsilon)
  (evaluateAt objective input raised heap).andThen fun plus heap =>
  (evaluateAt objective input lowered heap).map fun minus =>
    ((plus - minus) / (2 * epsilon), moved lowered position value)

/-- The slopes in the elements from a position on, with one buffer for all of them. -/
def differences (objective : Objective α) (input : Handle) (epsilon : α) :
    List α → Nat → Array α → Array α → Heap α → Outcome (Heap α) (Event α) (Array α)
  | [], _, _, found, heap => .done heap found
  | value :: rest, position, buffer, found, heap =>
    (difference objective input epsilon position value buffer heap).andThen
      fun (slope, restored) heap =>
        differences objective input epsilon rest (position + 1) restored (found.push slope) heap

/-- Gradient of an objective in every element of the input, which gets its
initial elements back once all evaluations have answered. -/
def numerical (objective : Objective α) (input : Handle) (epsilon : α) (heap : Heap α) :
    Outcome (Heap α) (Event α) (Array α) :=
  let initial := heap.data input
  (differences objective input epsilon initial.toList 0 initial #[] heap).andThen fun found heap =>
    (heap.setHost input initial).map fun _ => found

/-- An evaluation finds one element moved from a buffer, and the buffer comes back as it was. -/
theorem difference_eq {buffer : Array α} {position : Nat} {value : α}
    (place : buffer[position]? = some value) (objective : Objective α) (input : Handle)
    (epsilon : α) (heap : Heap α) :
    difference objective input epsilon position value buffer heap =
      (evaluateAt objective input (moved buffer position (value + epsilon)) heap).andThen
        fun plus heap =>
          (evaluateAt objective input (moved buffer position (value - epsilon)) heap).map
            fun minus => ((plus - minus) / (2 * epsilon), buffer) := by
  simp only [difference, moved_moved, moved_back place]

end TensorEngine.Gradient

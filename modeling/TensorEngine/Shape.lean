/-! Rank-4 shapes and positions, both in the order samples, channels, rows,
columns. -/

set_option autoImplicit false

namespace TensorEngine

structure Shape where
  samples : Nat
  channels : Nat
  rows : Nat
  cols : Nat
  deriving DecidableEq

namespace Shape

def empty : Shape := ⟨0, 0, 0, 0⟩

instance : Inhabited Shape := ⟨empty⟩

def count (shape : Shape) : Nat :=
  shape.samples * shape.channels * shape.rows * shape.cols

def plane (shape : Shape) : Nat :=
  shape.rows * shape.cols

def toList (shape : Shape) : List Nat :=
  [shape.samples, shape.channels, shape.rows, shape.cols]

/-- A shape with a zero dimension holds nothing; all of them are the empty shape. -/
def collapse (shape : Shape) : Shape :=
  if shape.samples = 0 ∨ shape.channels = 0 ∨ shape.rows = 0 ∨ shape.cols = 0 then empty else shape

@[simp] theorem collapse_empty : empty.collapse = empty := rfl

theorem collapse_of_pos {shape : Shape} (samples : 0 < shape.samples)
    (channels : 0 < shape.channels) (rows : 0 < shape.rows) (cols : 0 < shape.cols) :
    shape.collapse = shape := by
  unfold collapse
  rw [if_neg (by omega)]

@[simp] theorem collapse_collapse (shape : Shape) : shape.collapse.collapse = shape.collapse := by
  by_cases zero : shape.samples = 0 ∨ shape.channels = 0 ∨ shape.rows = 0 ∨ shape.cols = 0
  · simp [collapse, zero]
  · simp [collapse, zero]

@[simp] theorem count_collapse (shape : Shape) : shape.collapse.count = shape.count := by
  unfold collapse
  split
  · rename_i zero
    rcases zero with h | h | h | h <;> simp [count, empty, h]
  · rfl

end Shape

/-- A position in a rank-4 tensor. -/
structure Index where
  sample : Nat
  channel : Nat
  row : Nat
  col : Nat
  deriving DecidableEq

def Index.Within (index : Index) (shape : Shape) : Prop :=
  index.sample < shape.samples ∧ index.channel < shape.channels ∧
    index.row < shape.rows ∧ index.col < shape.cols

instance (index : Index) (shape : Shape) : Decidable (index.Within shape) :=
  inferInstanceAs (Decidable (_ ∧ _ ∧ _ ∧ _))

end TensorEngine

import TensorEngine.Shape

/-! Row-major layouts: where each position of a rank-4 tensor lies in flat
storage, and which position a flat index stands for. -/

set_option autoImplicit false

namespace TensorEngine

def scalarBytes : Nat := 4

theorem place_lt {row rows col cols : Nat} (inRows : row < rows) (inCols : col < cols) :
    row * cols + col < rows * cols := by
  have after := Nat.mul_le_mul_right cols (Nat.succ_le_of_lt inRows)
  rw [Nat.succ_mul] at after
  omega

theorem place_div {row col cols : Nat} (inCols : col < cols) : (row * cols + col) / cols = row := by
  rw [Nat.mul_comm, Nat.mul_add_div (by omega), Nat.div_eq_of_lt inCols, Nat.add_zero]

theorem place_mod {row col cols : Nat} (inCols : col < cols) : (row * cols + col) % cols = col := by
  rw [Nat.mul_comm, Nat.mul_add_mod, Nat.mod_eq_of_lt inCols]

/-- Distance in flat storage between neighbours along each axis. -/
structure Strides where
  sample : Nat
  channel : Nat
  row : Nat
  col : Nat
  deriving DecidableEq

def Strides.toList (strides : Strides) : List Nat :=
  [strides.sample, strides.channel, strides.row, strides.col]

structure Layout where
  dims : Shape
  strides : Strides
  deriving DecidableEq

namespace Layout

-- The layout of a descriptor that was never given a size.
def blank : Layout := ⟨Shape.empty, ⟨0, 0, 0, 0⟩⟩

instance : Inhabited Layout := ⟨blank⟩

/-- Row-major layout of a shape, collapsed first. -/
def ofShape (shape : Shape) : Layout :=
  let dims := shape.collapse
  ⟨dims, ⟨dims.channels * dims.rows * dims.cols, dims.rows * dims.cols, dims.cols, 1⟩⟩

def count (layout : Layout) : Nat := layout.dims.count

def plane (layout : Layout) : Nat := layout.dims.plane

def offset (layout : Layout) (index : Index) : Nat :=
  index.sample * layout.strides.sample + index.channel * layout.strides.channel +
    index.row * layout.strides.row + index.col

/-- Position of a flat index, read off the strides. -/
def position (layout : Layout) (flat : Nat) : Index where
  sample := flat / layout.strides.sample
  channel := flat / layout.strides.channel % layout.dims.channels
  row := flat / layout.strides.row % layout.dims.rows
  col := flat % layout.dims.cols

/-- Position of a flat index, read off the plane it falls into. -/
def planePosition (layout : Layout) (flat : Nat) : Index :=
  let chunk := flat / layout.plane
  let cell := flat % layout.plane
  { sample := chunk / layout.dims.channels
    channel := chunk % layout.dims.channels
    row := cell / layout.dims.cols
    col := cell % layout.dims.cols }

@[simp] theorem dims_ofShape (shape : Shape) : (ofShape shape).dims = shape.collapse := rfl

@[simp] theorem count_ofShape (shape : Shape) : (ofShape shape).count = shape.count :=
  Shape.count_collapse shape

theorem ofShape_dims (shape : Shape) : ofShape (ofShape shape).dims = ofShape shape := by
  simp [ofShape]

end Layout

end TensorEngine

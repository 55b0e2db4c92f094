import TensorEngine.Buffer
import TensorEngine.Counting
import TensorEngine.Layout
import TensorEngine.Outcome
import TensorEngine.Pool.Window

/-! Pooling windows over one source plane. A window is clipped to the plane and
scanned row by row. -/

set_option autoImplicit false

namespace TensorEngine.Pool

/-- Scalars that a scan for a maximum can start from. -/
class Lowest (α : Type) where
  lowest : α

instance : Lowest Float32 := ⟨Float32.ofBits 0xff800000⟩

structure Geometry where
  window : Window
  src : Layout
  dest : Layout
  deriving DecidableEq

namespace Geometry

-- A plane has to be at least one stride long on both axes. Strides of zero are not
-- refused here: they are a fault of the caller.
def ofLayout (window : Window) (src : Layout) : Except Failure Geometry :=
  let dims := src.dims
  if dims.rows < window.stride.1 ∨ dims.cols < window.stride.2 then
    .error (.refused (.poolingStrideTooLarge window.stride dims.rows dims.cols))
  else if window.stride.1 = 0 ∨ window.stride.2 = 0 then .error (.fault .zeroDivision)
  else
    .ok { window, src, dest := Layout.ofShape ⟨dims.samples, dims.channels,
            dims.rows / window.stride.1, dims.cols / window.stride.2⟩ }

-- The end of a window is counted in words before it is clipped.
def clipped (start size extent : Nat) : List Nat :=
  List.range' start (min (Counting.words.count (start + size)) extent - start)

theorem mem_clipped (start size extent position : Nat) :
    position ∈ clipped start size extent ↔
      start ≤ position ∧ position < Counting.words.count (start + size) ∧ position < extent := by
  simp only [clipped, List.mem_range'_1]
  omega

theorem within_of_mem_clipped {start size extent position : Nat}
    (member : position ∈ clipped start size extent) :
    start ≤ position ∧ position < start + size ∧ position < extent := by
  obtain ⟨reached, before, inside⟩ := (mem_clipped ..).mp member
  exact ⟨reached, Nat.lt_of_lt_of_le before (Counting.words.count_le _), inside⟩

def windowRows (geometry : Geometry) (row : Nat) : List Nat :=
  clipped (row * geometry.window.stride.1) geometry.window.size.1 geometry.src.dims.rows

def windowCols (geometry : Geometry) (col : Nat) : List Nat :=
  clipped (col * geometry.window.stride.2) geometry.window.size.2 geometry.src.dims.cols

def offsets (geometry : Geometry) (row col : Nat) : List Nat :=
  (geometry.windowRows row).flatMap fun y =>
    (geometry.windowCols col).map fun x => y * geometry.src.dims.cols + x

def corner (geometry : Geometry) (row col : Nat) : Nat :=
  row * geometry.window.stride.1 * geometry.src.dims.cols + col * geometry.window.stride.2

variable {α : Type}

/-- First greatest element of a window. A window without an element above the
lowest one yields its corner. -/
def argmax [Lowest α] [LT α] [DecidableLT α] (geometry : Geometry) (plane : Array α)
    (row col : Nat) :
    Option (Nat × α) :=
  (geometry.offsets row col).foldlM (fun best offset => do
    let value ← plane[offset]?
    return if best.2 < value then (offset, value) else best)
    (geometry.corner row col, Lowest.lowest)

def firstMatch [BEq α] (geometry : Geometry) (plane : Array α) (row col : Nat) (value : α) :
    Option (Option Nat) :=
  (geometry.offsets row col).findM? fun offset => do return (← plane[offset]?) == value

-- Offset that receives the gradient of an output pooled as `value`. Only a
-- window of values that equal nothing falls back to its greatest element.
def gradientTarget [Lowest α] [LT α] [DecidableLT α] [BEq α] (geometry : Geometry) (plane : Array α)
    (row col : Nat) (value : α) : Option Nat := do
  match ← geometry.firstMatch plane row col value with
  | some offset => return offset
  | none => return (← geometry.argmax plane row col).1

end Geometry

end TensorEngine.Pool

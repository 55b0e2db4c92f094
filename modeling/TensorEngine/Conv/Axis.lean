import TensorEngine.Counting

/-! One axis of a convolution: which input position a tap of an output position
reads. The input is padded by half the taps in front, so any filter size yields
one output for every `stride` inputs, rounded up. -/

set_option autoImplicit false

namespace TensorEngine.Conv

structure Axis where
  extent : Nat
  taps : Nat
  stride : Nat
  deriving DecidableEq

namespace Axis

def padding (axis : Axis) : Nat := (axis.taps - 1) / 2

def outputs (axis : Axis) : Nat := 1 + (axis.extent - 1) / axis.stride

/-- Input position that an output reads through a tap, if it lies inside the input. -/
def inputBy? (axis : Axis) (counting : Counting) (output tap : Nat) : Option Nat :=
  let padded := counting.count (output * axis.stride + tap)
  if axis.padding ≤ padded ∧ padded - axis.padding < axis.extent then some (padded - axis.padding)
  else none

/-- Output that reads an input position through a tap, if there is one. -/
def outputBy? (axis : Axis) (counting : Counting) (input tap : Nat) : Option Nat :=
  let padded := counting.count (input + axis.padding)
  let shifted := padded - tap
  if tap ≤ padded ∧ shifted % axis.stride = 0 ∧ shifted / axis.stride < axis.outputs then
    some (shifted / axis.stride)
  else none

-- The passes visit positions inside the operands, where every counting agrees.
def input? (axis : Axis) : Nat → Nat → Option Nat := axis.inputBy? .unbounded

def output? (axis : Axis) : Nat → Nat → Option Nat := axis.outputBy? .unbounded

theorem input?_eq_some_iff (axis : Axis) (output tap input : Nat) :
    axis.input? output tap = some input ↔
      output * axis.stride + tap = input + axis.padding ∧ input < axis.extent := by
  unfold input? inputBy? Counting.count
  dsimp only
  split
  · simp only [Option.some.injEq]
    omega
  · simp only [reduceCtorEq, false_iff]
    omega

end Axis

-- Visits the rows that have a counterpart, and in each the columns that have one.
def sweep {γ : Type} (rows cols : Nat) (rowOf colOf : Nat → Option Nat)
    (visit : Nat → Nat → Nat → Nat → γ) :
    List γ :=
  (List.range rows).flatMap fun row =>
    match rowOf row with
    | none => []
    | some atRow => (List.range cols).filterMap fun col =>
        (colOf col).map fun atCol => visit row atRow col atCol

theorem mem_sweep {γ : Type} {rows cols : Nat} {rowOf colOf : Nat → Option Nat}
    {visit : Nat → Nat → Nat → Nat → γ} {item : γ} :
    item ∈ sweep rows cols rowOf colOf visit ↔
      ∃ row < rows, ∃ atRow, rowOf row = some atRow ∧ ∃ col < cols, ∃ atCol,
        colOf col = some atCol ∧ visit row atRow col atCol = item := by
  unfold sweep
  simp only [List.mem_flatMap, List.mem_range]
  refine exists_congr fun row => and_congr_right fun _ => ?_
  cases rowOf row <;> simp

end TensorEngine.Conv

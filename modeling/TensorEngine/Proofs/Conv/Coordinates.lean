import TensorEngine.Proofs.Conv.Axis
import TensorEngine.Proofs.Conv.Geometry

/-! The coordinate maps of an accepted geometry. One takes an output and a tap to the input
position that is read, the other an input position and a tap to the output that reads it.
Both find what is related, so each undoes the other. Through the tap at the padding an
output reads the position that it starts from. All this holds of the positions that are
counted as they are, and so of every position that a pass visits. -/

set_option autoImplicit false

namespace TensorEngine.Conv

namespace Axis

/-- The maps between outputs and inputs undo each other through every tap, and lead nowhere
else. The outputs are those that find an input position through the tap at the padding. -/
structure Reciprocal (axis : Axis) (counting : Counting) (outputs taps inputs : Nat) : Prop where
  inverse : ∀ tap < taps, ∀ output < outputs, ∀ input < inputs,
    counting.Keeps (output * axis.stride + tap) → counting.Keeps (input + axis.padding) →
      (axis.inputBy? counting output tap = some input ↔
        axis.outputBy? counting input tap = some output)
  input_lt : ∀ output tap input, axis.inputBy? counting output tap = some input → input < inputs
  output_lt : ∀ input tap output, axis.outputBy? counting input tap = some output → output < outputs
  padding_lt : axis.padding < taps
  aligned : ∀ output, counting.Keeps (output * axis.stride + axis.padding) →
    axis.inputBy? counting output axis.padding =
      if output < outputs then some (output * axis.stride) else none
  reads : ∀ output < outputs, counting.Keeps (output * axis.stride + axis.padding) →
    ∃ tap < taps, ∃ input < inputs, axis.inputBy? counting output tap = some input

variable {axis : Axis} {counting : Counting}

-- Half the taps are fewer than all of them.
theorem padding_lt_taps (holds : 0 < axis.taps) : axis.padding < axis.taps := by
  unfold padding
  omega

/-- An axis whose extent and taps are counted as they are is visited at no other position. -/
theorem keeps_of_visited (positive : 0 < axis.stride) (extent : 0 < axis.extent)
    (held : counting.Keeps (axis.extent + axis.taps)) {output tap : Nat}
    (inOutputs : output < axis.outputs) (inTaps : tap < axis.taps) :
    counting.Keeps (output * axis.stride + tap) := by
  have inside := (lt_outputs_iff positive extent).mp inOutputs
  exact held.of_le (by omega)

theorem keeps_of_padded (taps : 0 < axis.taps) (held : counting.Keeps (axis.extent + axis.taps))
    {input : Nat} (inExtent : input < axis.extent) : counting.Keeps (input + axis.padding) := by
  have inTaps := padding_lt_taps taps
  exact held.of_le (by omega)

/-- The maps undo each other at all positions of an axis that is counted as it is. -/
theorem Reciprocal.everywhere (maps : axis.Reciprocal counting axis.outputs axis.taps axis.extent)
    (positive : 0 < axis.stride) (held : counting.Keeps (axis.extent + axis.taps))
    {tap output input : Nat} (inTaps : tap < axis.taps) (inOutputs : output < axis.outputs)
    (inExtent : input < axis.extent) :
    axis.inputBy? counting output tap = some input ↔
      axis.outputBy? counting input tap = some output :=
  maps.inverse tap inTaps output inOutputs input inExtent
    (keeps_of_visited positive (Nat.zero_lt_of_lt inExtent) held inOutputs inTaps)
    (keeps_of_padded (Nat.zero_lt_of_lt inTaps) held inExtent)

end Axis

end TensorEngine.Conv

import TensorEngine.Conv.Axis
import TensorEngine.Proofs.Summation

/-! The two coordinate maps of an axis as one relation between outputs, taps and
input positions, read in either direction. -/

set_option autoImplicit false

namespace TensorEngine.Conv

namespace Axis

/-- An output reads an input position through a tap. -/
def Meets (axis : Axis) (output tap input : Nat) : Prop :=
  output * axis.stride + tap = input + axis.padding

instance (axis : Axis) (output tap input : Nat) : Decidable (axis.Meets output tap input) :=
  inferInstanceAs (Decidable (_ = _))

variable {axis : Axis}

theorem input?_eq_some_iff_meets {output tap : Nat} (input : Nat) :
    axis.input? output tap = some input ↔ axis.Meets output tap input ∧ input < axis.extent :=
  axis.input?_eq_some_iff output tap input

-- The padded position of a tap is a multiple of the stride exactly at an output.
theorem output?_eq_some_iff_meets (positive : 0 < axis.stride) {input tap : Nat} (output : Nat) :
    axis.output? input tap = some output ↔ axis.Meets output tap input ∧ output < axis.outputs := by
  unfold output? outputBy? Counting.count Meets
  dsimp only
  constructor
  · intro found
    split at found
    · rename_i conditions
      obtain ⟨reached, divides, inside⟩ := conditions
      cases Option.some.inj found
      have exactly := Nat.div_mul_cancel (Nat.dvd_of_mod_eq_zero divides)
      exact ⟨by omega, inside⟩
    · cases found
  · rintro ⟨met, inside⟩
    have shifted : input + axis.padding - tap = output * axis.stride := by omega
    have quotient : output * axis.stride / axis.stride = output := Nat.mul_div_cancel _ positive
    rw [shifted, quotient, if_pos ⟨by omega, Nat.mul_mod_left _ _, inside⟩]

-- There is an output for as long as its first step stays inside the input.
theorem lt_outputs_iff (positive : 0 < axis.stride) (holds : 0 < axis.extent) {output : Nat} :
    output < axis.outputs ↔ output * axis.stride < axis.extent := by
  have most : output ≤ (axis.extent - 1) / axis.stride ↔ output * axis.stride ≤ axis.extent - 1 :=
    Nat.le_div_iff_mul_le positive
  unfold outputs
  omega

section

variable {β : Type} [AddCommMonoid β]

theorem sum_inputs (output tap : Nat) (term : Nat → β) :
    ∑ input ∈ Finset.range axis.extent, (if axis.Meets output tap input then term input else 0) =
      (axis.input? output tap).elim 0 term :=
  sum_ite_found (fun input => input?_eq_some_iff_meets input) term

theorem sum_outputs (positive : 0 < axis.stride) (input tap : Nat) (term : Nat → β) :
    ∑ output ∈ Finset.range axis.outputs, (if axis.Meets output tap input then term output else 0) =
      (axis.output? input tap).elim 0 term :=
  sum_ite_found (fun output => output?_eq_some_iff_meets positive output) term

end

end Axis

theorem sum_sweep {β γ : Type} [AddCommMonoid β] (rows cols : Nat) (rowOf colOf : Nat → Option Nat)
    (visit : Nat → Nat → Nat → Nat → γ) (term : γ → β) :
    ((sweep rows cols rowOf colOf visit).map term).sum =
      ∑ row ∈ Finset.range rows, ∑ col ∈ Finset.range cols,
        (rowOf row).elim 0 fun atRow => (colOf col).elim 0 fun atCol =>
          term (visit row atRow col atCol) := by
  unfold sweep
  rw [sum_flatMap_range]
  refine Finset.sum_congr rfl fun row _ => ?_
  cases rowOf row with
  | none => simp
  | some atRow =>
    dsimp only [Option.elim_some]
    rw [sum_filterMap_range]
    refine Finset.sum_congr rfl fun col _ => ?_
    cases colOf col <;> rfl

end TensorEngine.Conv

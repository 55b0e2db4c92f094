import TensorEngine.Proofs.Activation.InPlace
import TensorEngine.Proofs.Heap.Frame
import TensorEngine.Proofs.Heap.Landing

/-! Operands of one call that are one object. A call that shares its destination with
an operand overwrites what it reads; it leaves there what a call on separate objects of
the same contents leaves in its destination, whatever that one held before. -/

set_option autoImplicit false

namespace TensorEngine.Heap

open Buffer

variable {α : Type}

/-- The call answers and leaves a tensor in its destination. Everything else is as it was. -/
structure Leaves (before : Heap α) (dest : Handle) (left : Tensor α)
    (called : Outcome (Heap α) (Event α) Unit) :
    Prop where
  answer : called.answer = .ok ()
  tensor : called.state.get dest = left
  confined : Confined dest before called.state

/-- An activation call that passes its checks. Its destination may be its source. -/
structure ForwardCall (α : Type) where
  heap : Heap α
  dest : Handle
  src : Handle
  regular : heap.Regular
  valid : heap.Valid dest
  shape : heap.shape dest = heap.shape src

/-- A gradient call that passes its checks. The gradient may replace the one it is made
from, or that one may be the outputs. -/
structure GradientCall (α : Type) where
  heap : Heap α
  gradient : Handle
  outputs : Handle
  outputGradient : Handle
  regular : heap.Regular
  valid : heap.Valid gradient
  outputShape : heap.shape outputGradient = heap.shape outputs
  shape : heap.shape gradient = heap.shape outputs
  apart : gradient ≠ outputs

variable [Zero α] [One α] [Add α] [Sub α] [LE α] [DecidableLE α] {activation : Activation}

section

variable [Neg α] [Div α] [LT α] [DecidableLT α] [Elementary α]

def ForwardCall.run (call : ForwardCall α) (activation : Activation) :
    Outcome (Heap α) (Event α) Unit :=
  call.heap.activate activation call.dest call.src

theorem ForwardCall.leaves (call : ForwardCall α) {source : Tensor α}
    (holds : call.heap.get call.src = source) {result : Array α}
    (ran : activation.apply source.data source.layout = .ok result) :
    Leaves call.heap call.dest ⟨source.descriptor, result⟩ (call.run activation) := by
  subst holds
  have layout : call.heap.layout call.dest = call.heap.layout call.src :=
    call.regular.layout_eq call.shape
  have applied : activation.apply (call.heap.data call.src) (call.heap.layout call.dest) =
      .ok result := by
    rw [layout]
    exact ran
  obtain ⟨answer, after⟩ := activate_stores call.regular call.valid call.shape applied
  change (call.run activation).state = _ at after
  refine ⟨answer, ?_, ?_⟩
  · rw [after, get_store_self call.valid]
    exact congrArg (fun layout => Tensor.mk ⟨layout⟩ result) layout
  · rw [after]
    exact confined_put ..

end

section

variable [Mul α]

def GradientCall.run (call : GradientCall α) (activation : Activation) :
    Outcome (Heap α) (Event α) Unit :=
  call.heap.activationGradient activation call.gradient call.outputs call.outputGradient

theorem GradientCall.leaves (call : GradientCall α) {outputs outputGradient : Tensor α}
    (holds : call.heap.get call.outputs = outputs)
    (given : call.heap.get call.outputGradient = outputGradient) {result : Array α}
    (ran : activation.gradient outputGradient.data outputs.data outputs.layout = .ok result) :
    Leaves call.heap call.gradient ⟨outputs.descriptor, result⟩ (call.run activation) := by
  subst holds given
  have layout : call.heap.layout call.gradient = call.heap.layout call.outputs :=
    call.regular.layout_eq call.shape
  obtain ⟨answer, after⟩ := activationGradient_stores call.regular call.valid
    (checkGradient_eq_ok_iff.mpr ⟨call.outputShape, call.shape, call.apart⟩) ran
  change (call.run activation).state = _ at after
  refine ⟨answer, ?_, ?_⟩
  · rw [after, get_store_self call.valid]
    exact congrArg (fun layout => Tensor.mk ⟨layout⟩ result) layout
  · rw [after]
    exact confined_put ..

end

variable [Neg α] [Mul α] [Div α] [LT α] [DecidableLT α] [Elementary α]

/-- Two calls on operands of equal contents leave one and the same tensor in their
destinations, whichever of their tensors are one object and whatever else there is. It is
the tensor that any schedule leaves which overwrites the operand in place, group by group. -/
theorem aliases_leave_no_trace (activation : Activation) :
    (∀ one other : ForwardCall α, one.heap.get one.src = other.heap.get other.src →
      ∃ left : Tensor α, Leaves one.heap one.dest left (one.run activation) ∧
        Leaves other.heap other.dest left (other.run activation) ∧
        ∀ schedule : List (List Nat), schedule.Perm (activation.groups left.layout) →
          left.data = schedule.foldl (activation.overwriteOutputs left.layout)
            (one.heap.data one.src)) ∧
    ∀ one other : GradientCall α, one.heap.get one.outputs = other.heap.get other.outputs →
      one.heap.get one.outputGradient = other.heap.get other.outputGradient →
      ∃ left : Tensor α, Leaves one.heap one.gradient left (one.run activation) ∧
        Leaves other.heap other.gradient left (other.run activation) ∧
        ∀ schedule : List (List Nat), schedule.Perm (activation.groups left.layout) →
          left.data = schedule.foldl
            (activation.overwriteGradients left.layout (one.heap.data one.outputs))
            (one.heap.data one.outputGradient) := by
  constructor
  · intro one other same
    have source := one.regular one.src
    obtain ⟨result, ran, -⟩ := activation.apply_answers source.size
    refine ⟨⟨(one.heap.get one.src).descriptor, result⟩, one.leaves rfl ran,
      other.leaves same.symm ran, ?_⟩
    intro schedule ordered
    exact Except.ok.inj (ran.symm.trans
      (activation.apply_in_place source.rowMajor ordered source.size))
  · intro one other sameOutputs sameGradient
    have outputs := one.regular one.outputs
    have size : (one.heap.data one.outputGradient).size = (one.heap.layout one.outputs).count :=
      one.regular.size_of_shape one.outputShape
    obtain ⟨result, ran, -⟩ := activation.gradient_answers size outputs.size
    refine ⟨⟨(one.heap.get one.outputs).descriptor, result⟩, one.leaves rfl rfl ran,
      other.leaves sameOutputs.symm sameGradient.symm ran, ?_⟩
    intro schedule ordered
    exact Except.ok.inj (ran.symm.trans
      (activation.gradient_in_place outputs.rowMajor ordered size outputs.size))

-- In place on the first tensor, and from it into the second, which holds something else before.
theorem aliases_leave_no_trace_nan :
    let nan := Float32.ofBits 0x7fc00000
    let infinite := Float32.ofBits 0x7f800000
    let shape : Shape := ⟨1, 2, 1, 2⟩
    let created : Heap Float32 := (((Heap.empty.create #[nan, infinite, -0, 3] shape).state.create
      #[7, nan, 7, 7] shape).state.create #[0, 1, nan, 1] shape).state
    (∃ left : Tensor Float32, Leaves created ⟨0⟩ left (created.activate .softmax ⟨0⟩ ⟨0⟩) ∧
      Leaves created ⟨1⟩ left (created.activate .softmax ⟨1⟩ ⟨0⟩)) ∧
    ∃ left : Tensor Float32,
      Leaves created ⟨0⟩ left (created.activationGradient .softmax ⟨0⟩ ⟨2⟩ ⟨0⟩) ∧
      Leaves created ⟨1⟩ left (created.activationGradient .softmax ⟨1⟩ ⟨2⟩ ⟨0⟩) := by
  intro nan infinite shape created
  have regular : created.Regular := ((Heap.regular_empty.create _ _).create _ _).create _ _
  have valid : created.Valid ⟨0⟩ := by decide
  have otherValid : created.Valid ⟨1⟩ := by decide
  have outputs : created.shape ⟨0⟩ = created.shape ⟨2⟩ := by decide
  have separate : created.shape ⟨1⟩ = created.shape ⟨0⟩ := by decide
  let inPlace : ForwardCall Float32 := ⟨created, ⟨0⟩, ⟨0⟩, regular, valid, rfl⟩
  let apart : ForwardCall Float32 := ⟨created, ⟨1⟩, ⟨0⟩, regular, otherValid, separate⟩
  let gradientInPlace : GradientCall Float32 :=
    ⟨created, ⟨0⟩, ⟨2⟩, ⟨0⟩, regular, valid, outputs, outputs, by decide⟩
  let gradientApart : GradientCall Float32 :=
    ⟨created, ⟨1⟩, ⟨2⟩, ⟨0⟩, regular, otherValid, outputs, separate.trans outputs, by decide⟩
  obtain ⟨left, here, there, -⟩ := (aliases_leave_no_trace .softmax).1 inPlace apart rfl
  obtain ⟨leftBack, hereBack, thereBack, -⟩ :=
    (aliases_leave_no_trace .softmax).2 gradientInPlace gradientApart rfl rfl
  exact ⟨⟨left, here, there⟩, leftBack, hereBack, thereBack⟩

end TensorEngine.Heap

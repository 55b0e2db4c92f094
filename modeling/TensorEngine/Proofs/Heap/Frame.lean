import TensorEngine.Heap.Activation
import TensorEngine.Heap.Convolution
import TensorEngine.Heap.Elementwise
import TensorEngine.Heap.Pooling
import TensorEngine.Proofs.Heap

/-! The frame of every call on tensors: whatever a call does, and on whatever heap, it
does to the tensor of its destination. All others are left alone, also by a call that
fails half way, and only the calls that resize their destination change its layout. -/

set_option autoImplicit false

namespace TensorEngine.Heap

open TensorEngine.Conv TensorEngine.Pool

variable {α β γ σ : Type}

/-- No tensor but one has changed, and none has been added. -/
structure Confined (dest : Handle) (before after : Heap α) : Prop where
  size : after.tensors.size = before.tensors.size
  others : ∀ other, other ≠ dest → after.get other = before.get other

/-- The elements of one tensor have been replaced. -/
def Rewritten (dest : Handle) (before after : Heap α) : Prop :=
  ∃ data, after = before.store dest data

variable {dest : Handle} {heap : Heap α}

theorem Confined.refl (dest : Handle) (heap : Heap α) : Confined dest heap heap :=
  ⟨rfl, fun _ _ => rfl⟩

theorem Confined.trans {before after : Heap α} (first : Confined dest before heap)
    (second : Confined dest heap after) :
    Confined dest before after where
  size := second.size.trans first.size
  others other different := (second.others other different).trans (first.others other different)

-- A handle without a tensor changes nothing, so no handle has to be valid here.
theorem confined_put (heap : Heap α) (dest : Handle) (tensor : Tensor α) :
    Confined dest heap (heap.put dest tensor) where
  size := size_put heap dest tensor
  others other different := by
    have apart : dest.index ≠ other.index :=
      fun same => different (by cases dest; cases other; simp_all)
    simp [get, put, Array.getD_eq_getD_getElem?, apart]

theorem put_of_not_valid (invalid : ¬ heap.Valid dest) (tensor : Tensor α) :
    heap.put dest tensor = heap := by
  unfold Valid at invalid
  simp [put, Array.setIfInBounds, invalid]

theorem Rewritten.refl (dest : Handle) (heap : Heap α) : Rewritten dest heap heap := by
  refine ⟨heap.data dest, ?_⟩
  by_cases valid : heap.Valid dest
  · unfold Valid at valid
    have same : heap.tensors.setIfInBounds dest.index heap.tensors[dest.index] = heap.tensors := by
      simp [Array.setIfInBounds, valid]
    unfold store Heap.data get put
    rw [Array.getD_eq_getD_getElem?, Array.getElem?_eq_getElem valid, Option.getD_some, same]
  · exact (put_of_not_valid valid _).symm

theorem Rewritten.trans {before after : Heap α} (first : Rewritten dest before heap)
    (second : Rewritten dest heap after) : Rewritten dest before after := by
  obtain ⟨data, rfl⟩ := first
  obtain ⟨next, rfl⟩ := second
  refine ⟨next, ?_⟩
  by_cases valid : before.Valid dest
  · exact store_store valid data next
  · unfold store
    rw [put_of_not_valid valid]

theorem Rewritten.confined {after : Heap α} (rewritten : Rewritten dest heap after) :
    Confined dest heap after := by
  obtain ⟨data, rfl⟩ := rewritten
  exact confined_put heap dest _

theorem Rewritten.layout {after : Heap α} (rewritten : Rewritten dest heap after) (other : Handle) :
    after.layout other = heap.layout other := by
  obtain ⟨data, rfl⟩ := rewritten
  by_cases valid : heap.Valid dest
  · exact layout_store heap dest other data valid
  · unfold store
    rw [put_of_not_valid valid]

/-- What holds of two calls that follow one another, if it can be carried along. -/
theorem carried_andThen {relation : Heap α → Heap α → Prop}
    (trans : ∀ {first second third}, relation first second → relation second third →
      relation first third)
    (tensors : σ → Heap α) {first : Outcome σ (Event α) β} {next : β → σ → Outcome σ (Event α) γ}
    (begins : relation heap (tensors first.state))
    (continues : ∀ value state, relation (tensors state) (tensors (next value state).state)) :
    relation heap (tensors (first.andThen next).state) := by
  cases answered : first.answer with
  | ok value =>
    rw [Outcome.andThen_of_ok next answered]
    exact trans begins (continues value first.state)
  | error failure =>
    rw [Outcome.andThen_of_error next answered]
    exact begins

/-! Calls on tensors alone. -/

theorem confined_setSize [Zero α] (heap : Heap α) (dest : Handle) (shape : Shape) :
    Confined dest heap (heap.setSize dest shape).state := confined_put heap dest _

theorem rewritten_setHost (heap : Heap α) (dest : Handle) (values : Array α) :
    Rewritten dest heap (heap.setHost dest values).state := by
  unfold setHost
  split
  · exact .refl dest heap
  · exact ⟨_, rfl⟩

theorem rewritten_write (heap : Heap α) (dest : Handle) (inputs : List Handle)
    (kernel : Array α → Except Failure (Array α)) :
    Rewritten dest heap (heap.write dest inputs kernel).state := by
  unfold write
  split
  · exact .refl dest heap
  · split
    · exact .refl dest heap
    · exact ⟨_, rfl⟩

theorem rewritten_fill (heap : Heap α) (dest : Handle) (value : α) :
    Rewritten dest heap (heap.fill dest value).state :=
  rewritten_write heap dest [] _

theorem rewritten_scale [Mul α] (heap : Heap α) (dest : Handle) (factor : α) :
    Rewritten dest heap (heap.scale dest factor).state := rewritten_write heap dest [] _

theorem rewritten_add [Zero α] [Add α] [Mul α] [BEq α] (heap : Heap α) (beta : α) (dest : Handle)
    (alpha : α) (src : Handle) : Rewritten dest heap (heap.add beta dest alpha src).state := by
  unfold add
  split
  · exact .refl dest heap
  · exact rewritten_write heap dest [src] _

theorem rewritten_addBiasGradient [Zero α] [Add α] (heap : Heap α) (bias gradient : Handle) :
    Rewritten bias heap (heap.addBiasGradient bias gradient).state := by
  unfold addBiasGradient
  split
  · exact .refl bias heap
  · exact rewritten_write heap bias [gradient] _

theorem rewritten_copyInto (heap : Heap α) (dest src : Handle) :
    Rewritten dest heap (heap.copyInto dest src : Outcome (Heap α) (Event α) Unit).state := by
  unfold copyInto
  split
  · exact .refl dest heap
  · exact rewritten_write heap dest [src] _

theorem rewritten_activate [Zero α] [One α] [Add α] [Sub α] [Neg α] [Div α] [LT α] [LE α]
    [DecidableLT α] [DecidableLE α] [Elementary α] (heap : Heap α) (activation : Activation)
    (dest src : Handle) :
    Rewritten dest heap (heap.activate activation dest src).state := by
  unfold activate
  split
  · exact .refl dest heap
  · exact carried_andThen .trans id (rewritten_copyInto heap dest src) fun _ copied =>
      rewritten_write copied dest [] _

theorem rewritten_activationGradient [Zero α] [One α] [Add α] [Sub α] [Mul α] [LE α] [DecidableLE α]
    (heap : Heap α) (activation : Activation) (gradient outputs outputGradient : Handle) :
    Rewritten gradient heap
      (heap.activationGradient activation gradient outputs outputGradient).state := by
  unfold activationGradient
  split
  · exact .refl gradient heap
  · exact carried_andThen .trans id (rewritten_copyInto heap gradient outputGradient)
      fun _ copied => rewritten_write copied gradient [outputs] _

/-! Calls of operators. -/

section

variable [Lowest α] [LT α] [DecidableLT α]

theorem confined_pool [Zero α] (heap : Heap α) (operator : Pool.Operator) (dest src : Handle) :
    Confined dest heap (heap.pool operator dest src).state := by
  unfold pool
  split
  · exact .refl dest heap
  · exact carried_andThen .trans id (confined_setSize heap dest _) fun _ resized =>
      (rewritten_write resized dest [src] _).confined

theorem rewritten_addPoolGradient [BEq α] [Add α] (heap : Heap α) (operator : Pool.Operator)
    (outputGradient dest src gradient : Handle) :
    Rewritten gradient heap
      (heap.addPoolGradient operator outputGradient dest src gradient).state := by
  unfold addPoolGradient
  split
  · exact .refl gradient heap
  · exact rewritten_write heap gradient [outputGradient, dest, src] _

end

section

variable [Zero α] [One α] [Add α] [Mul α] [MatrixProduct α]

-- A pass that breaks off has written to its destination all the same.
theorem rewritten_convolve (heap : Heap α) (operator : Conv.Operator α) (plan : Plan α)
    (pass : Pass) (target first second : Handle) :
    Rewritten target heap (heap.convolve operator plan pass target first second).state.2 := by
  unfold convolve
  split
  · exact .refl target heap
  · exact ⟨_, rfl⟩

theorem confined_convolveForward (heap : Heap α) (operator : Conv.Operator α)
    (output data filters : Handle) :
    Confined output heap (heap.convolveForward operator output data filters).state.2 := by
  unfold convolveForward
  split
  · exact .refl output heap
  · exact carried_andThen .trans Prod.snd (confined_setSize heap output _) fun _ state =>
      (rewritten_convolve state.2 operator _ .forward output data filters).confined

theorem rewritten_addDataGradient (heap : Heap α) (operator : Conv.Operator α)
    (outputGradient filters dataGradient : Handle) :
    Rewritten dataGradient heap
      (heap.addDataGradient operator outputGradient filters dataGradient).state.2 := by
  unfold addDataGradient
  split
  · exact .refl dataGradient heap
  · exact rewritten_convolve heap operator _ .backwardData dataGradient outputGradient filters

theorem rewritten_assignFilterGradient (heap : Heap α) (operator : Conv.Operator α)
    (outputGradient data filterGradient : Handle) :
    Rewritten filterGradient heap
      (heap.assignFilterGradient operator outputGradient data filterGradient).state.2 := by
  unfold assignFilterGradient
  split
  · exact .refl filterGradient heap
  · exact rewritten_convolve heap operator _ .backwardFilter filterGradient outputGradient data

end

end TensorEngine.Heap

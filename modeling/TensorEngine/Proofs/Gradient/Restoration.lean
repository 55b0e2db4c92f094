import TensorEngine.Gradient.Comparison
import TensorEngine.Proofs.Heap

/-! What a numerical gradient leaves in its input. Each evaluation replaces the elements of
the input, and the initial ones are put back after the last. An objective that fails ends
the run where it stands, with one element of the input moved. -/

set_option autoImplicit false

namespace TensorEngine.Gradient

variable {α β γ : Type}

/-- An objective that keeps a tensor and its contents. -/
structure Spares (objective : Objective α) (input : Handle) : Prop where
  valid (heap : Heap α) : heap.Valid input → (objective heap).state.Valid input
  get (heap : Heap α) : (objective heap).state.get input = heap.get input

/-- The input is what it was, but for its elements. -/
structure Holds (input : Handle) (tensor : Tensor α) (values : Array α) (heap : Heap α) : Prop where
  valid : heap.Valid input
  get : heap.get input = { tensor with data := values }

variable {objective : Objective α} {input : Handle} {tensor : Tensor α} {values old : Array α}
  {heap : Heap α}

theorem Holds.spared (holds : Holds input tensor values heap) (spares : Spares objective input) :
    Holds input tensor values (objective heap).state :=
  ⟨spares.valid heap holds.valid, (spares.get heap).trans holds.get⟩

theorem Holds.setHost (holds : Holds input tensor old heap) (size : old.size = values.size) :
    heap.setHost input values = .done (heap.store input values) () ∧
      Holds input tensor values (heap.store input values) := by
  have data : heap.data input = old := congrArg Tensor.data holds.get
  constructor
  · unfold Heap.setHost
    rw [data, (Buffer.assign_eq_ok_iff old values values).mpr ⟨size, rfl⟩]
  · refine ⟨Heap.valid_put.mpr holds.valid, ?_⟩
    rw [Heap.get_store_self holds.valid, holds.get]

theorem evaluateAt_eq (holds : Holds input tensor old heap) (size : old.size = values.size) :
    evaluateAt objective input values heap = objective (heap.store input values) := by
  unfold evaluateAt
  rw [(holds.setHost size).1]
  rfl

-- The elements that remain begin with the one at the position.
theorem placed_of_drop {position : Nat} {value : α} {rest : List α}
    (remaining : values.toList.drop position = value :: rest) :
    values[position]? = some value ∧ values.toList.drop (position + 1) = rest := by
  constructor
  · have head := congrArg List.head? remaining
    rw [List.head?_drop] at head
    simpa using head
  · rw [← List.tail_drop, remaining, List.tail_cons]

/-- What is left by an objective that fails when one element of the input has been moved. -/
inductive BrokenOff [Add α] [Sub α] (objective : Objective α) (input : Handle) (epsilon : α)
    (tensor : Tensor α) (failure : Failure) : Heap α → Prop where
  | evaluating {position : Nat} {value shifted : α} {evaluated : Heap α}
      (place : tensor.data[position]? = some value)
      (shift : shifted = value + epsilon ∨ shifted = value - epsilon)
      (holds : Holds input tensor (moved tensor.data position shifted) evaluated)
      (failed : (objective evaluated).answer = .error failure) :
    BrokenOff objective input epsilon tensor failure (objective evaluated).state

/-- A part of a run: if it answers, its result and the elements that the input then holds are
as they may be left, and if it does not, an evaluation has failed. -/
structure Settles [Add α] [Sub α] (objective : Objective α) (input : Handle) (epsilon : α)
    (tensor : Tensor α) (left : β → Array α → Prop)
    (called : Outcome (Heap α) (Event α) β) : Prop where
  answered : ∀ result, called.answer = .ok result →
    ∃ values, left result values ∧ Holds input tensor values called.state
  failed : ∀ failure, called.answer = .error failure →
    BrokenOff objective input epsilon tensor failure called.state

/-- What holds between two elements: the buffer has its initial elements back, and the input
has as many as at first. -/
structure Between (tensor : Tensor α) (buffer values : Array α) : Prop where
  restored : buffer = tensor.data
  size : values.size = tensor.data.size

section

variable [Add α] [Sub α] {epsilon : α} {buffer : Array α}

theorem Settles.andThen {left : β → Array α → Prop} {after : γ → Array α → Prop}
    {called : Outcome (Heap α) (Event α) β} {next : β → Heap α → Outcome (Heap α) (Event α) γ}
    (first : Settles objective input epsilon tensor left called)
    (later : ∀ value heap values, left value values → Holds input tensor values heap →
      Settles objective input epsilon tensor after (next value heap)) :
    Settles objective input epsilon tensor after (called.andThen next) := by
  cases answer : called.answer with
  | error failure =>
    rw [Outcome.andThen_of_error next answer]
    exact ⟨nofun, fun other same =>
      first.failed other (answer.trans (congrArg Except.error (Except.error.inj same)))⟩
  | ok value =>
    obtain ⟨values, kept, holds⟩ := first.answered value answer
    have settles := later value called.state values kept holds
    rw [Outcome.andThen_of_ok next answer]
    exact ⟨settles.answered, settles.failed⟩

theorem Settles.map {left : β → Array α → Prop} {after : γ → Array α → Prop}
    {called : Outcome (Heap α) (Event α) β}
    (settles : Settles objective input epsilon tensor left called) (f : β → γ)
    (kept : ∀ value values, left value values → after (f value) values) :
    Settles objective input epsilon tensor after (called.map f) := by
  obtain ⟨answer, state, events⟩ := called
  cases answer with
  | error failure =>
    exact ⟨nofun, fun other same =>
      settles.failed other (congrArg Except.error (Except.error.inj same))⟩
  | ok value =>
    obtain ⟨values, leaves, holds⟩ := settles.answered value rfl
    refine ⟨fun result same => ⟨values, ?_, holds⟩, nofun⟩
    exact Except.ok.inj same ▸ kept value values leaves

theorem settles_setHost {left : Unit → Array α → Prop} (holds : Holds input tensor old heap)
    (size : old.size = values.size) (kept : left () values) :
    Settles objective input epsilon tensor left (heap.setHost input values) := by
  obtain ⟨done, held⟩ := holds.setHost size
  rw [done]
  exact ⟨fun _ _ => ⟨values, kept, held⟩, nofun⟩

/-- One evaluation, with one element of the input moved. -/
theorem settles_evaluateAt (spares : Spares objective input) (holds : Holds input tensor old heap)
    (size : old.size = tensor.data.size) {position : Nat} {value shifted : α}
    (place : tensor.data[position]? = some value)
    (shift : shifted = value + epsilon ∨ shifted = value - epsilon) :
    Settles objective input epsilon tensor (fun _ values => values.size = tensor.data.size)
      (evaluateAt objective input (moved tensor.data position shifted) heap) := by
  have sameSize := size_moved tensor.data position shifted
  have held := (holds.setHost (size.trans sameSize.symm)).2
  rw [evaluateAt_eq holds (size.trans sameSize.symm)]
  exact ⟨fun _ _ => ⟨_, sameSize, held.spared spares⟩,
    fun failure failed => .evaluating place shift held failed⟩

variable [Mul α] [Div α] [OfNat α 2]

/-- One element: the buffer that it starts with comes back. -/
theorem settles_difference (spares : Spares objective input) (holds : Holds input tensor old heap)
    (between : Between tensor buffer old) {position : Nat} {value : α}
    (place : tensor.data[position]? = some value) :
    Settles objective input epsilon tensor (fun found => Between tensor found.2)
      (difference objective input epsilon position value buffer heap) := by
  obtain ⟨rfl, size⟩ := between
  rw [difference_eq place]
  refine (settles_evaluateAt spares holds size place (.inl rfl)).andThen
    fun plus heap values sameSize held => ?_
  exact (settles_evaluateAt spares held sameSize place (.inr rfl)).map _ fun _ _ => .mk rfl

theorem settles_differences (spares : Spares objective input) (rest : List α) :
    ∀ (position : Nat) (found : Array α) {buffer old : Array α} {heap : Heap α},
      Holds input tensor old heap →
      Between tensor buffer old → tensor.data.toList.drop position = rest →
        Settles objective input epsilon tensor (fun _ values => values.size = tensor.data.size)
          (differences objective input epsilon rest position buffer found heap) := by
  -- On the elements that remain: the run starts each with the buffer between two of them.
  induction rest with
  | nil => exact fun _ _ _ old _ holds between _ => ⟨fun _ _ => ⟨old, between.size, holds⟩, nofun⟩
  | cons value rest ih =>
    intro position found buffer old heap holds between remaining
    obtain ⟨place, further⟩ := placed_of_drop remaining
    refine (settles_difference spares holds between place).andThen
      fun (slope, restored) heap values after held => ?_
    exact ih (position + 1) (found.push slope) held after further

/-- A whole run puts the initial elements back if every evaluation answers. -/
theorem settles_numerical (spares : Spares objective input) (valid : heap.Valid input) :
    Settles objective input epsilon (heap.get input) (fun _ values => values = heap.data input)
      (numerical objective input epsilon heap) := by
  have begins : Holds input (heap.get input) (heap.data input) heap := ⟨valid, rfl⟩
  unfold numerical
  refine (settles_differences spares _ 0 #[] begins ⟨rfl, rfl⟩ rfl).andThen
    fun found heap values sameSize held => ?_
  exact (settles_setHost held sameSize rfl).map _ fun _ _ => id

end

/-- The input of a numerical gradient, and of a check that computes one, has its initial
elements back when all evaluations have answered, whatever the check then says. When an
evaluation fails, the element that it was made for stays moved. -/
theorem restores_after_last_evaluation {objective : Objective Float32} {input : Handle}
    {heap : Heap Float32} (spares : Spares objective input) (valid : heap.Valid input)
    (analytical : Array Float32) (epsilon tolerance : Float32) :
    let run := numerical objective input epsilon heap
    let checked := check objective input analytical epsilon tolerance heap
    checked.state = run.state ∧
      (∀ gradient, run.answer = .ok gradient → run.state.get input = heap.get input) ∧
      ∀ failure, run.answer = .error failure → checked.answer = .error failure ∧
        ∃ position value shifted evaluated, (heap.data input)[position]? = some value ∧
          (shifted = value + epsilon ∨ shifted = value - epsilon) ∧
          Holds input (heap.get input) (moved (heap.data input) position shifted) evaluated ∧
          (objective evaluated).answer = .error failure ∧
          run.state.get input =
            { heap.get input with data := moved (heap.data input) position shifted } := by
  intro run checked
  have settles : Settles objective input epsilon (heap.get input)
      (fun _ values => values = heap.data input) run :=
    settles_numerical spares valid
  refine ⟨?_, fun gradient answered => ?_, fun failure failed => ⟨?_, ?_⟩⟩
  · change (run.andThen _).state = run.state
    cases answer : run.answer with
    | error failure => rw [Outcome.andThen_of_error _ answer]
    | ok found =>
      rw [Outcome.andThen_of_ok _ answer]
      change (Outcome.ofExcept run.state (compare analytical found tolerance)).state = run.state
      cases compare analytical found tolerance <;> rfl
  · obtain ⟨values, rfl, held⟩ := settles.answered gradient answered
    exact held.get
  · exact congrArg Outcome.answer (Outcome.andThen_of_error _ failed)
  · have broken := settles.failed failure failed
    generalize run.state = after at broken
    cases broken with
    | @evaluating position value shifted evaluated place shift holds failed =>
      exact ⟨position, value, shifted, evaluated, place, shift, holds, failed,
        (holds.spared spares).get⟩

theorem restores_after_last_evaluation_bounded :
    let heap : Heap Float32 := ⟨#[⟨Descriptor.new.setSize ⟨1, 1, 1, 2⟩, #[1, 2]⟩]⟩
    let input : Handle := ⟨0⟩
    -- The last element, as long as it is at most the bound.
    let objective (bound : Float32) : Objective Float32 := fun heap =>
      let last := (heap.data input).getD 1 0
      if last ≤ bound then .done heap last else .refuse heap .poolingNotConfigured
    (numerical (objective 3) input 0.5 heap).state.get input = heap.get input ∧
      ∃ position value shifted evaluated, (heap.data input)[position]? = some value ∧
        (shifted = value + 0.5 ∨ shifted = value - 0.5) ∧
        Holds input (heap.get input) (moved (heap.data input) position shifted) evaluated ∧
        (∃ failure, (objective 2 evaluated).answer = .error failure) ∧
        (numerical (objective 2) input 0.5 heap).state.get input =
          { heap.get input with data := moved (heap.data input) position shifted } := by
  intro heap input objective
  have spares (bound : Float32) : Spares (objective bound) input := by
    have state (heap : Heap Float32) : (objective bound heap).state = heap := by
      change (if _ then _ else _ : Outcome (Heap Float32) (Event Float32) Float32).state = heap
      split <;> rfl
    exact ⟨fun heap valid => (state heap).symm ▸ valid,
      fun heap => congrArg (Heap.get · input) (state heap)⟩
  have valid : heap.Valid input := by decide
  have answers : (numerical (objective 3) input 0.5 heap).answer.toBool = true := by decide +kernel
  have breaksOff : (numerical (objective 2) input 0.5 heap).answer.toBool = false := by
    decide +kernel
  constructor
  · cases answered : (numerical (objective 3) input 0.5 heap).answer with
    | error failure => simp [answered, Except.toBool] at answers
    | ok gradient =>
      exact (restores_after_last_evaluation (spares 3) valid #[] 0.5 0).2.1 gradient answered
  · cases failed : (numerical (objective 2) input 0.5 heap).answer with
    | ok gradient => simp [failed, Except.toBool] at breaksOff
    | error failure =>
      obtain ⟨-, position, value, shifted, evaluated, place, shift, holds, refused, left⟩ :=
        (restores_after_last_evaluation (spares 2) valid #[] 0.5 0).2.2 failure failed
      exact ⟨position, value, shifted, evaluated, place, shift, holds, ⟨failure, refused⟩, left⟩

/-- An evaluation that is refused leaves the first element moved. -/
theorem input_moved_after_refusal :
    let heap : Heap Float32 :=
      ⟨#[⟨Descriptor.new.setSize ⟨1, 1, 1, 2⟩, #[1, 2]⟩,
        ⟨Descriptor.new.setSize ⟨1, 1, 1, 1⟩, #[3]⟩]⟩
    let input : Handle := ⟨0⟩
    let objective : Objective Float32 := fun heap =>
      .ofExcept heap (dotProduct (heap.data input) (heap.data ⟨1⟩))
    Spares objective input ∧ heap.data input = #[1, 2] ∧
      (numerical objective input 0.5 heap).state.data input = #[1.5, 2] ∧
      (check objective input #[3, 3] 0.5 0.25 heap).state.data input = #[1.5, 2] := by
  intro heap input objective
  have spares : Spares objective input := by
    have state (heap : Heap Float32) : (objective heap).state = heap := by
      change (Outcome.ofExcept heap (dotProduct _ _)).state = heap
      cases dotProduct (heap.data input) (heap.data ⟨1⟩) <;> rfl
    exact ⟨fun heap valid => (state heap).symm ▸ valid,
      fun heap => congrArg (Heap.get · input) (state heap)⟩
  refine ⟨spares, ?_, ?_, ?_⟩ <;> decide +kernel

end TensorEngine.Gradient

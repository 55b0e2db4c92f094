import TensorEngine.Heap.Activation
import TensorEngine.Heap.Elementwise
import TensorEngine.Proofs.Activation
import TensorEngine.Proofs.Elementwise
import TensorEngine.Proofs.Heap

/-! All that a call can do to the tensors. It is refused, for a cause that lies with the
caller, and leaves everything as it was; or it answers and has replaced one tensor by a
regular one. A call that has begun to write never fails after that. -/

set_option autoImplicit false

namespace TensorEngine

variable {α β γ σ : Type}

/-- A cause that lies with the caller; the others are the engine's own. -/
def Error.Foreseen (error : Error) : Prop := error.kind ≠ .internalLogicError

/-- A check that refuses for such causes only. -/
def Foreseen (check : Except Error β) : Prop := ∀ error, check = .error error → error.Foreseen

theorem foreseen_ok (value : β) : Foreseen (.ok value) := nofun

theorem Foreseen.bind {check : Except Error β} {next : β → Except Error γ} (first : Foreseen check)
    (rest : ∀ value, Foreseen (next value)) : Foreseen (check >>= next) := by
  cases check with
  | error error =>
    intro other same
    cases same
    exact first error rfl
  | ok value => exact rest value

namespace Heap

theorem foreseen_distinct (operation : String) (first second : String × Handle) :
    Foreseen (distinct operation first second) := by
  intro error refused
  unfold distinct at refused
  split at refused
  · cases refused
    nofun
  · cases refused

theorem foreseen_expectShape (expected actual : Shape) :
    Foreseen (expectShape expected actual) := by
  intro error refused
  unfold expectShape at refused
  split at refused
  · cases refused
  · cases refused
    nofun

/-- What a call does to the tensors in a state. -/
inductive Lands (tensors : σ → Heap α) (before : σ) (dest : Handle) :
    Outcome σ (Event α) Unit → Prop where
  | refused {error : Error} {events : List (Event α)} (foreseen : error.Foreseen) :
    Lands tensors before dest ⟨.error (.refused error), before, events⟩
  | written {after : σ} {tensor : Tensor α} {events : List (Event α)} (regular : tensor.Regular)
      (moved : tensors after = (tensors before).put dest tensor) : Lands tensors before dest
        ⟨.ok (), after, events⟩

variable {heap : Heap α} {dest : Handle}

theorem lands_write (regular : heap.Regular) {inputs : List Handle}
    {kernel : Array α → Except Failure (Array α)} (separate : dest ∉ inputs)
    (answers : ∃ result, kernel (heap.data dest) = .ok result ∧
      result.size = (heap.data dest).size) :
    Lands id heap dest (heap.write dest inputs kernel) := by
  obtain ⟨result, ran, size⟩ := answers
  rw [write_of_eq_ok separate ran]
  exact .written ((regular dest).withData size) rfl

theorem refusable_of_eq_ok {answer : Except Error β} {value : β} (answered : answer = .ok value) :
    refusable answer = .ok value := by
  rw [answered]
  rfl

/-! Sizes, elements and elementwise arithmetic. -/

theorem lands_setSize [Zero α] (heap : Heap α) (dest : Handle) (shape : Shape) :
    Lands id heap dest (heap.setSize dest shape) :=
  .written (Tensor.regular_setSize (heap.get dest).descriptor shape
    ((size_resized _ _).trans (Descriptor.count_setSize _ _))) rfl

theorem lands_setHost (regular : heap.Regular) (dest : Handle) (values : Array α) :
    Lands id heap dest (heap.setHost dest values) := by
  unfold setHost Buffer.assign
  by_cases size : (heap.data dest).size = values.size
  · rw [if_pos size]
    exact .written ((regular dest).withData size.symm) rfl
  · rw [if_neg size]
    exact .refused nofun

theorem lands_fill (regular : heap.Regular) (dest : Handle) (value : α) :
    Lands id heap dest (heap.fill dest value) :=
  lands_write regular List.not_mem_nil ⟨_, rfl, Array.size_map⟩

theorem lands_scale [Mul α] (regular : heap.Regular) (dest : Handle) (factor : α) :
    Lands id heap dest (heap.scale dest factor) :=
  lands_write regular List.not_mem_nil ⟨_, rfl, Array.size_map⟩

theorem foreseen_checkAdd (heap : Heap α) (dest src : Handle) :
    Foreseen (heap.checkAdd dest src) := by
  refine Foreseen.bind (foreseen_distinct _ _ _) fun _ => ?_
  split
  · exact foreseen_ok ()
  · intro error refused
    cases refused
    nofun

theorem checkAdd_eq_ok_iff {src : Handle} :
    heap.checkAdd dest src = .ok () ↔
      dest ≠ src ∧ Elementwise.broadcasts (heap.shape dest) (heap.shape src) = true := by
  unfold checkAdd
  rw [bind_eq_ok_iff]
  simp only [distinct_eq_ok_iff]
  constructor
  · rintro ⟨_, apart, rest⟩
    split at rest
    · exact ⟨apart, ‹_›⟩
    · cases rest
  · rintro ⟨apart, compatible⟩
    exact ⟨(), apart, by rw [if_pos compatible]; rfl⟩

theorem add_cases [Zero α] [Add α] [Mul α] [BEq α] (heap : Heap α) (beta : α) (dest : Handle)
    (alpha : α) (src : Handle) :
    (∃ error : Error, error.Foreseen ∧ heap.add beta dest alpha src = .refuse heap error) ∨
      heap.checkAdd dest src = .ok () := by
  cases checked : heap.checkAdd dest src with
  | error error =>
    refine .inl ⟨error, foreseen_checkAdd heap dest src error checked, ?_⟩
    unfold add
    rw [checked]
  | ok _ => exact .inr rfl

theorem add_of_checked [Zero α] [Add α] [Mul α] [BEq α] {beta alpha : α} {src : Handle}
    (checked : heap.checkAdd dest src = .ok ()) {result : Array α}
    (ran : Elementwise.addScaled beta (heap.data dest) (heap.layout dest) alpha (heap.data src)
      (heap.layout src) = .ok result) :
    ∃ events, heap.add beta dest alpha src = ⟨.ok (), heap.store dest result, events⟩ := by
  unfold add
  rw [checked]
  dsimp only
  rw [write_of_eq_ok (by simpa using (checkAdd_eq_ok_iff.mp checked).1) (refusable_of_eq_ok ran)]
  exact ⟨_, rfl⟩

theorem lands_add [Zero α] [Add α] [Mul α] [BEq α] (regular : heap.Regular) (beta : α)
    (dest : Handle) (alpha : α) (src : Handle) :
    Lands id heap dest (heap.add beta dest alpha src) := by
  obtain ⟨error, foreseen, refused⟩ | checked := heap.add_cases beta dest alpha src
  · rw [refused]
    exact .refused foreseen
  · obtain ⟨-, compatible⟩ := checkAdd_eq_ok_iff.mp checked
    obtain ⟨result, ran, size⟩ := Elementwise.addScaled_answers beta alpha
      (regular dest).size (regular src).size compatible
    obtain ⟨events, called⟩ := add_of_checked checked ran
    rw [called]
    exact .written ((regular dest).withData size) rfl

theorem foreseen_checkBiasGradient (heap : Heap α) (bias gradient : Handle) :
    Foreseen (heap.checkBiasGradient bias gradient) := by
  refine Foreseen.bind (foreseen_distinct _ _ _) fun _ => ?_
  split
  · intro error refused
    cases refused
    nofun
  · exact foreseen_expectShape _ _

theorem checkBiasGradient_eq_ok_iff {bias gradient : Handle} :
    heap.checkBiasGradient bias gradient = .ok () ↔ bias ≠ gradient ∧
      (heap.layout gradient).count ≠ 0 ∧
      heap.shape bias = ⟨1, (heap.shape gradient).channels, 1, 1⟩ := by
  unfold checkBiasGradient
  rw [bind_eq_ok_iff]
  simp only [distinct_eq_ok_iff]
  constructor
  · rintro ⟨_, apart, rest⟩
    split at rest
    · cases rest
    · exact ⟨apart, ‹_›, expectShape_eq_ok_iff.mp rest⟩
  · rintro ⟨apart, holds, shape⟩
    exact ⟨(), apart, by rw [if_neg holds]; exact expectShape_eq_ok_iff.mpr shape⟩

theorem addBiasGradient_cases [Zero α] [Add α] (heap : Heap α) (bias gradient : Handle) :
    (∃ error : Error, error.Foreseen ∧ heap.addBiasGradient bias gradient = .refuse heap error) ∨
      heap.checkBiasGradient bias gradient = .ok () := by
  cases checked : heap.checkBiasGradient bias gradient with
  | error error =>
    refine .inl ⟨error, foreseen_checkBiasGradient heap bias gradient error checked, ?_⟩
    unfold addBiasGradient
    rw [checked]
  | ok _ => exact .inr rfl

theorem size_bias (regular : heap.Regular) {bias : Handle} {channels : Nat}
    (shape : heap.shape bias = ⟨1, channels, 1, 1⟩) : (heap.data bias).size = channels := by
  refine (regular bias).size.trans ?_
  change (heap.shape bias).count = channels
  rw [shape]
  simp [Shape.count]

theorem addBiasGradient_of_checked [Zero α] [Add α] (regular : heap.Regular)
    {bias gradient : Handle} (checked : heap.checkBiasGradient bias gradient = .ok ()) :
    ∃ events, heap.addBiasGradient bias gradient =
      ⟨.ok (), heap.store bias
        (Buffer.cells (heap.data bias).size fun channel => Buffer.cell (heap.data bias) channel +
        Elementwise.channelSum (heap.data gradient) (heap.layout gradient) channel), events⟩ := by
  obtain ⟨apart, -, shape⟩ := checkBiasGradient_eq_ok_iff.mp checked
  have ran := Elementwise.addChannelSums_eq_ok (regular gradient).size (size_bias regular shape)
  unfold addBiasGradient
  rw [checked]
  dsimp only
  rw [write_of_eq_ok (by simpa using apart) (refusable_of_eq_ok ran)]
  exact ⟨_, rfl⟩

theorem lands_addBiasGradient [Zero α] [Add α] (regular : heap.Regular) (bias gradient : Handle) :
    Lands id heap bias (heap.addBiasGradient bias gradient) := by
  obtain ⟨error, foreseen, refused⟩ | checked := heap.addBiasGradient_cases bias gradient
  · rw [refused]
    exact .refused foreseen
  · obtain ⟨events, called⟩ := addBiasGradient_of_checked regular checked
    rw [called]
    exact .written ((regular bias).withData (Buffer.size_cells ..)) rfl

-- A call that resizes its destination first and then fills it.
theorem lands_resized [Zero α] (regular : heap.Regular) (valid : heap.Valid dest) (shape : Shape)
    {result : Array α} {events : List (Event α)}
    (size : result.size = ((heap.setSize dest shape).state.data dest).size) :
    Lands id heap dest ⟨.ok (), (heap.setSize dest shape).state.store dest result, events⟩ :=
  .written ((regular.setSize valid shape dest).withData size) (put_put heap dest _ _)

/-! Activations. -/

theorem data_size_eq (regular : heap.Regular) {one other : Handle}
    (same : heap.shape one = heap.shape other) :
    (heap.data one).size = (heap.data other).size :=
  (regular one).size.trans ((congrArg Shape.count same).trans (regular other).size.symm)

/-- The heap in which `dest` has the elements of `src`. -/
def copied (heap : Heap α) (dest src : Handle) : Heap α :=
  if dest = src then heap else heap.store dest (heap.data src)

theorem copyInto_eq_done {src : Handle} (size : (heap.data dest).size = (heap.data src).size) :
    (heap.copyInto dest src : Outcome (Heap α) (Event α) Unit) = .done (heap.copied dest src)
      () := by
  unfold copyInto copied
  by_cases same : dest = src
  · rw [if_pos same, if_pos same]
  · rw [if_neg same, if_neg same]
    exact write_of_eq_ok (by simpa using same)
      (refusable_of_eq_ok ((Buffer.assign_eq_ok_iff _ _ _).mpr ⟨size, rfl⟩))

section

variable {src : Handle} (valid : heap.Valid dest)

include valid

theorem data_copied (other : Handle) :
    (heap.copied dest src).data other =
      if other = dest then heap.data src else heap.data other := by
  unfold copied
  by_cases same : dest = src
  · rw [if_pos same]
    split
    · rename_i self
      rw [self, same]
    · rfl
  · rw [if_neg same, data_store heap dest other _ valid]

theorem layout_copied (other : Handle) :
    (heap.copied dest src).layout other = heap.layout other := by
  unfold copied
  split
  · rfl
  · exact layout_store heap dest other _ valid

theorem store_copied (data : Array α) :
    (heap.copied dest src).store dest data = heap.store dest data := by
  unfold copied
  split
  · rfl
  · exact store_store valid _ data

end

theorem foreseen_checkGradient (heap : Heap α) (activation : Activation)
    (gradient outputs outputGradient : Handle) :
    Foreseen (heap.checkGradient activation gradient outputs outputGradient) :=
  Foreseen.bind (foreseen_expectShape _ _) fun _ =>
      Foreseen.bind (foreseen_expectShape _ _) fun _ =>
    foreseen_distinct _ _ _

theorem checkGradient_eq_ok_iff {activation : Activation}
    {gradient outputs outputGradient : Handle} :
    heap.checkGradient activation gradient outputs outputGradient = .ok () ↔
      heap.shape outputGradient = heap.shape outputs ∧ heap.shape gradient = heap.shape outputs ∧
        gradient ≠ outputs := by
  unfold checkGradient
  simp only [bind_eq_ok_iff, expectShape_eq_ok_iff, distinct_eq_ok_iff, exists_const]

section

variable [Zero α] [One α] [Add α] [Sub α] [Neg α] [Div α] [LT α] [LE α] [DecidableLT α]
  [DecidableLE α] [Elementary α]

theorem activate_cases (heap : Heap α) (activation : Activation) (dest src : Handle) :
    (∃ error : Error, error.Foreseen ∧ heap.activate activation dest src = .refuse heap error) ∨
      heap.shape dest = heap.shape src := by
  by_cases shape : heap.shape dest = heap.shape src
  · exact .inr shape
  · refine .inl ⟨.shapeMismatch (heap.shape src).toList (heap.shape dest).toList, nofun, ?_⟩
    unfold activate expectShape
    rw [if_neg shape]

/-- An activation of a tensor of the same shape stores what the function makes of the source. -/
theorem activate_of_eq_ok {activation : Activation} (regular : heap.Regular) {src : Handle}
    (valid : heap.Valid dest) (shape : heap.shape dest = heap.shape src) {result : Array α}
    (ran : activation.apply (heap.data src) (heap.layout dest) = .ok result) :
    ∃ events, heap.activate activation dest src = ⟨.ok (), heap.store dest result, events⟩ := by
  have data : (heap.copied dest src).data dest = heap.data src :=
    (data_copied valid dest).trans (if_pos rfl)
  unfold activate
  rw [(expectShape_eq_ok_iff.mpr shape : _ = Except.ok ())]
  dsimp only
  rw [copyInto_eq_done (data_size_eq regular shape), Outcome.andThen_of_ok _ rfl]
  dsimp only [Outcome.done]
  rw [layout_copied valid, write_of_eq_ok List.not_mem_nil (refusable_of_eq_ok (data.symm ▸ ran)),
    store_copied valid]
  exact ⟨_, rfl⟩

theorem activate_stores {activation : Activation} (regular : heap.Regular) {src : Handle}
    (valid : heap.Valid dest) (shape : heap.shape dest = heap.shape src) {result : Array α}
    (ran : activation.apply (heap.data src) (heap.layout dest) = .ok result) :
    let called : Outcome (Heap α) (Event α) Unit := heap.activate activation dest src
    called.answer = .ok () ∧ called.state = heap.store dest result := by
  intro called
  obtain ⟨_, answered⟩ := activate_of_eq_ok regular valid shape ran
  exact ⟨congrArg Outcome.answer answered, congrArg Outcome.state answered⟩

theorem lands_activate (regular : heap.Regular) (activation : Activation) {dest : Handle}
    (valid : heap.Valid dest) (src : Handle) :
    Lands id heap dest (heap.activate activation dest src) := by
  obtain ⟨error, foreseen, refused⟩ | shape := heap.activate_cases activation dest src
  · rw [refused]
    exact .refused foreseen
  · have size := data_size_eq regular shape
    obtain ⟨result, ran, resultSize⟩ :=
      activation.apply_answers (size.symm.trans (regular dest).size)
    obtain ⟨events, called⟩ := activate_of_eq_ok regular valid shape ran
    rw [called]
    exact .written ((regular dest).withData (resultSize.trans size.symm)) rfl

end

section

variable [Zero α] [One α] [Add α] [Sub α] [Mul α] [LE α] [DecidableLE α] {activation : Activation}
  {gradient outputs outputGradient : Handle}

theorem activationGradient_cases (heap : Heap α) (activation : Activation)
    (gradient outputs outputGradient : Handle) :
    (∃ error : Error, error.Foreseen ∧
        heap.activationGradient activation gradient outputs outputGradient = .refuse heap error) ∨
      heap.checkGradient activation gradient outputs outputGradient = .ok () := by
  cases checked : heap.checkGradient activation gradient outputs outputGradient with
  | error error =>
    refine .inl ⟨error, foreseen_checkGradient heap activation gradient outputs outputGradient error
      checked, ?_⟩
    unfold activationGradient
    rw [checked]
  | ok _ => exact .inr rfl

/-- A gradient that passes the checks is stored in place of the tensor that is to hold it. -/
theorem activationGradient_of_eq_ok (regular : heap.Regular) (valid : heap.Valid gradient)
    (checked : heap.checkGradient activation gradient outputs outputGradient = .ok ())
    {result : Array α}
    (ran : activation.gradient (heap.data outputGradient) (heap.data outputs)
      (heap.layout outputs) = .ok result) :
    ∃ events, heap.activationGradient activation gradient outputs outputGradient =
      ⟨.ok (), heap.store gradient result, events⟩ := by
  obtain ⟨outputShape, shape, apart⟩ := checkGradient_eq_ok_iff.mp checked
  have data : (heap.copied gradient outputGradient).data gradient = heap.data outputGradient :=
    (data_copied valid gradient).trans (if_pos rfl)
  have kept : (heap.copied gradient outputGradient).data outputs = heap.data outputs :=
    (data_copied valid outputs).trans (if_neg apart.symm)
  unfold activationGradient
  rw [checked]
  dsimp only
  rw [copyInto_eq_done (data_size_eq regular (shape.trans outputShape.symm)),
    Outcome.andThen_of_ok _ rfl]
  dsimp only [Outcome.done]
  rw [layout_copied valid, kept,
    write_of_eq_ok (by simpa using apart) (refusable_of_eq_ok (data.symm ▸ ran)),
    store_copied valid]
  exact ⟨_, rfl⟩

theorem activationGradient_stores (regular : heap.Regular) (valid : heap.Valid gradient)
    (checked : heap.checkGradient activation gradient outputs outputGradient = .ok ())
    {result : Array α}
    (ran : activation.gradient (heap.data outputGradient) (heap.data outputs)
      (heap.layout outputs) = .ok result) :
    let called : Outcome (Heap α) (Event α) Unit :=
      heap.activationGradient activation gradient outputs outputGradient
    called.answer = .ok () ∧ called.state = heap.store gradient result := by
  intro called
  obtain ⟨_, answered⟩ := activationGradient_of_eq_ok regular valid checked ran
  exact ⟨congrArg Outcome.answer answered, congrArg Outcome.state answered⟩

theorem lands_activationGradient (regular : heap.Regular) (valid : heap.Valid gradient) :
    Lands id heap gradient
      (heap.activationGradient activation gradient outputs outputGradient) := by
  obtain ⟨error, foreseen, refused⟩ | checked :=
    heap.activationGradient_cases activation gradient outputs outputGradient
  · rw [refused]
    exact .refused foreseen
  · obtain ⟨outputShape, shape, -⟩ := checkGradient_eq_ok_iff.mp checked
    obtain ⟨result, ran, size⟩ := activation.gradient_answers
      ((data_size_eq regular outputShape).trans (regular outputs).size) (regular outputs).size
    obtain ⟨events, called⟩ := activationGradient_of_eq_ok regular valid checked ran
    rw [called]
    exact .written ((regular gradient).withData
      (size.trans (data_size_eq regular (outputShape.trans shape.symm)))) rfl

end

end Heap

end TensorEngine

import TensorEngine.Heap.Pooling
import TensorEngine.Proofs.Heap.Landing
import TensorEngine.Proofs.Pool.Kernel

/-! What pooling does to the tensors. Its checks refuse or establish an accepted
geometry, on which the kernels answer. -/

set_option autoImplicit false

namespace TensorEngine.Heap

open TensorEngine.Pool

variable {α β γ : Type} {heap : Heap α} {operator : Operator} {geometry : Geometry}
  {dest src gradient outputGradient : Handle}

theorem foreseen_current (operator : Operator) : Foreseen operator.current := by
  intro error refused
  unfold Operator.current at refused
  split at refused
  · cases refused
  · cases refused
    nofun

/-- A check that refuses for a cause of the caller's, or is passed with something established. -/
def Decides (check : Except Failure β) (established : β → Prop) : Prop :=
  (∃ error : Error, check = .error (.refused error) ∧ error.Foreseen) ∨ ∃ value, check = .ok value ∧
    established value

theorem decides_of_foreseen {check : Except Error β} (foreseen : Foreseen check) :
    Decides (liftM check) fun value => check = .ok value := by
  cases check with
  | error error => exact .inl ⟨error, rfl, foreseen error rfl⟩
  | ok value => exact .inr ⟨value, rfl, rfl⟩

theorem Decides.bind {check : Except Failure β} {established : β → Prop}
    {next : β → Except Failure γ} {passed : γ → Prop} (decides : Decides check established)
    (rest : ∀ value, established value → Decides (next value) passed) :
    Decides (check >>= next) passed := by
  obtain ⟨error, rfl, foreseen⟩ | ⟨value, rfl, held⟩ := decides
  · exact .inl ⟨error, rfl, foreseen⟩
  · exact rest value held

theorem decides_ofLayout (regular : heap.Regular) (sound : operator.Sound) {window : Window}
    (held : operator.current = .ok window) (src : Handle) :
    Decides (Geometry.ofLayout window (heap.layout src)) fun geometry =>
      geometry.src = heap.layout src ∧ geometry.Admitted := by
  have kept : operator.window = some window := by
    unfold Operator.current at held
    split at held
    · cases held
      assumption
    · cases held
  obtain ⟨rows, cols⟩ := sound window kept
  obtain accepted | refused := Geometry.ofLayout_cases (regular src).rowMajor rows cols
  · exact .inr accepted
  · exact .inl ⟨_, refused, nofun⟩

theorem decides_checkPool (regular : heap.Regular) (sound : operator.Sound) (dest src : Handle) :
    Decides (heap.checkPool operator dest src) fun geometry =>
      dest ≠ src ∧ geometry.src = heap.layout src ∧ geometry.Admitted := by
  unfold checkPool
  refine (decides_of_foreseen (foreseen_current operator)).bind fun window held => ?_
  refine (decides_of_foreseen (foreseen_distinct _ _ _)).bind fun _ apart => ?_
  obtain refused | ⟨geometry, accepted, source⟩ := decides_ofLayout regular sound held src
  · exact .inl refused
  · exact .inr ⟨geometry, accepted, distinct_eq_ok_iff.mp apart, source⟩

theorem decides_checkPoolGradient (regular : heap.Regular) (sound : operator.Sound)
    (outputGradient dest src gradient : Handle) :
    Decides (heap.checkPoolGradient operator outputGradient dest src gradient) fun geometry =>
      gradient ∉ [outputGradient, dest, src] ∧ geometry.src = heap.layout src ∧ geometry.Admitted ∧
        heap.shape dest = geometry.dest.dims ∧ heap.shape outputGradient = heap.shape dest ∧
          heap.shape gradient = heap.shape src := by
  unfold checkPoolGradient
  refine (decides_of_foreseen (foreseen_current operator)).bind fun window held => ?_
  refine (decides_of_foreseen (foreseen_distinct _ _ _)).bind fun _ notOutput => ?_
  refine (decides_of_foreseen (foreseen_distinct _ _ _)).bind fun _ notDest => ?_
  refine (decides_of_foreseen (foreseen_distinct _ _ _)).bind fun _ notSrc => ?_
  refine (decides_ofLayout regular sound held src).bind fun geometry source => ?_
  refine (decides_of_foreseen (foreseen_expectShape _ _)).bind fun _ destShape => ?_
  refine (decides_of_foreseen (foreseen_expectShape _ _)).bind fun _ outputShape => ?_
  refine (decides_of_foreseen (foreseen_expectShape _ _)).bind fun _ gradientShape => ?_
  have apart : gradient ∉ [outputGradient, dest, src] := by
    simpa using ⟨distinct_eq_ok_iff.mp notOutput, distinct_eq_ok_iff.mp notDest,
      distinct_eq_ok_iff.mp notSrc⟩
  exact .inr ⟨geometry, rfl, apart, source.1, source.2, expectShape_eq_ok_iff.mp destShape,
    expectShape_eq_ok_iff.mp outputShape, expectShape_eq_ok_iff.mp gradientShape⟩

section

variable [Lowest α] [LT α] [DecidableLT α]

theorem addPoolGradient_of_checked [BEq α] [Add α]
    (checked : heap.checkPoolGradient operator outputGradient dest src gradient = .ok geometry)
    (apart : gradient ∉ [outputGradient, dest, src]) {result : Array α}
    (ran : maxBackward geometry (heap.data gradient) (heap.data outputGradient) (heap.data dest)
      (heap.data src) = some result) :
    ∃ events, heap.addPoolGradient operator outputGradient dest src gradient =
      ⟨.ok (), heap.store gradient result, events⟩ := by
  unfold addPoolGradient
  rw [checked]
  dsimp only
  rw [write_of_eq_ok apart (congrArg inRange ran)]
  exact ⟨_, rfl⟩

variable [Zero α]

theorem pool_of_checked (valid : heap.Valid dest)
    (checked : heap.checkPool operator dest src = .ok geometry) (apart : dest ≠ src)
    {result : Array α}
    (ran : maxForward geometry ((heap.setSize dest geometry.dest.dims).state.data dest)
      (heap.data src) = some result) :
    ∃ events, heap.pool operator dest src =
      ⟨.ok (), (heap.setSize dest geometry.dest.dims).state.store dest result, events⟩ := by
  have kept := congrArg Tensor.data ((get_setSize heap valid geometry.dest.dims).2 src apart.symm)
  unfold pool
  rw [checked]
  dsimp only
  rw [Outcome.andThen_of_ok _ rfl, write_of_eq_ok (by simpa using apart) (by
    change inRange (maxForward geometry _
      (((heap.setSize dest geometry.dest.dims).state.get src).data)) = _
    rw [kept]
    exact congrArg inRange ran)]
  exact ⟨_, rfl⟩

theorem lands_pool (regular : heap.Regular) (sound : operator.Sound) (valid : heap.Valid dest)
    (src : Handle) :
    Lands id heap dest (heap.pool operator dest src) := by
  obtain ⟨error, refused, foreseen⟩ | ⟨geometry, checked, apart, same, admitted⟩ :=
    decides_checkPool regular sound dest src
  · unfold pool
    rw [refused]
    exact .refused foreseen
  · have size := size_setSize valid geometry.dest.dims
    obtain ⟨result, ran, resultSize⟩ := maxForward_answers admitted size
      ((regular src).size.trans (congrArg Layout.count same.symm))
    obtain ⟨events, called⟩ := pool_of_checked valid checked apart ran
    rw [called]
    exact lands_resized regular valid geometry.dest.dims resultSize

theorem lands_addPoolGradient [BEq α] [Add α] (regular : heap.Regular) (sound : operator.Sound)
    (outputGradient dest src gradient : Handle) :
    Lands id heap gradient (heap.addPoolGradient operator outputGradient dest src gradient) := by
  obtain ⟨error, refused, foreseen⟩ | ⟨geometry, checked, apart, same, admitted, destShape,
      outputShape, shape⟩ :=
    decides_checkPoolGradient regular sound outputGradient dest src gradient
  · unfold addPoolGradient
    rw [refused]
    exact .refused foreseen
  · have srcSize := (regular src).size.trans (congrArg Layout.count same.symm)
    have destSize : (heap.data dest).size = geometry.dest.count :=
      (regular dest).size.trans (congrArg Shape.count destShape)
    obtain ⟨routes, ran⟩ :=
      maxBackward_eq_some admitted ((data_size_eq regular outputShape).trans destSize)
      destSize srcSize
    have size := (data_size_eq regular shape).trans srcSize
    obtain ⟨events, called⟩ := addPoolGradient_of_checked checked apart (ran _ size)
    rw [called]
    exact .written ((regular gradient).withData (Buffer.size_cells ..)) rfl

end

end TensorEngine.Heap

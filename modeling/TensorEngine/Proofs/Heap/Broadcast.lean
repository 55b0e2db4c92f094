import TensorEngine.Proofs.Conv.Correlation
import TensorEngine.Proofs.Float
import TensorEngine.Proofs.Heap.Landing

/-! Addition with a source that is broadcast over its destination. The two causes of a
refusal are found before anything is written; behind them every pair of tensors has a sum,
and each of its elements is made from one element of either. -/

set_option autoImplicit false

namespace TensorEngine.Heap

open Elementwise

section

variable {α : Type} [Zero α] [Add α] [Mul α] [BEq α] {heap : Heap α} {dest src : Handle}

theorem add_same (heap : Heap α) (beta : α) (dest : Handle) (alpha : α) :
    heap.add beta dest alpha dest = .refuse heap (.sharedStorage "add" "dest" "src") := by
  have checked : heap.checkAdd dest dest = .error (.sharedStorage "add" "dest" "src") := by
    unfold checkAdd distinct
    rw [if_pos rfl]
    rfl
  unfold add
  rw [checked]

variable (beta alpha : α) (apart : dest ≠ src)

include apart

theorem add_of_not_broadcasts
    (incompatible : ¬ broadcasts (heap.shape dest) (heap.shape src) = true) :
    heap.add beta dest alpha src =
      .refuse heap (.incompatibleShapes (heap.shape dest) (heap.shape src)) := by
  have checked : heap.checkAdd dest src =
      .error (.incompatibleShapes (heap.shape dest) (heap.shape src)) := by
    have separate : distinct "add" ("dest", dest) ("src", src) = .ok () :=
      distinct_eq_ok_iff.mpr apart
    unfold checkAdd
    rw [separate, if_neg incompatible]
    rfl
  unfold add
  rw [checked]

/-- A sum that passes the checks is stored; each element is blended from the one before and
its source. -/
theorem add_of_broadcasts (regular : heap.Regular) (valid : heap.Valid dest)
    (compatible : broadcasts (heap.shape dest) (heap.shape src) = true) :
    let called : Outcome (Heap α) (Event α) Unit := heap.add beta dest alpha src
    (∃ result, addScaled beta (heap.data dest) (heap.layout dest) alpha (heap.data src)
      (heap.layout src) = .ok result) ∧
      called.answer = .ok () ∧ called.state.shape dest = heap.shape dest ∧
      ∀ index : Index, index.Within (heap.shape dest) → called.state.element dest index =
        blend beta (heap.element dest index) alpha
          (heap.element src (broadcastIndex (heap.shape src) index)) := by
  intro called
  have sum : ∃ result,
      addScaled beta (heap.data dest) (heap.layout dest) alpha (heap.data src) (heap.layout src) =
        .ok result :=
    (addScaled_answers beta alpha (regular dest).size (regular src).size compatible).imp
      fun _ ran => ran.1
  obtain ⟨result, ran⟩ := id sum
  obtain ⟨events, answered⟩ := add_of_checked (checkAdd_eq_ok_iff.mpr ⟨apart, compatible⟩) ran
  have after : called.state = heap.store dest result := congrArg Outcome.state answered
  refine ⟨sum, congrArg Outcome.answer answered, ?_, fun index within => ?_⟩
  · rw [after, shape_store valid]
  · have blended := read_addScaled (regular dest).rowMajor (regular dest).size
      (regular src).size ran compatible within
    unfold element
    rw [after, layout_store heap dest dest result valid, data_store_self valid]
    exact blended

end

variable {heap : Heap Float32} {dest src : Handle}

/-- Addition answers for two tensors exactly if each dimension of the source is that of the
destination or one. A source dimension of one is read at its only place, and a beta that
compares equal to zero, of either sign, leaves out what the destination held. -/
theorem add_broadcasts_source (regular : heap.Regular) (valid : heap.Valid dest) (src : Handle)
    (beta alpha : Float32) :
    let called : Outcome (Heap Float32) (Event Float32) Unit := heap.add beta dest alpha src
    let shape := heap.shape src
    let compatible :=
      List.Forall₂ (fun dest src => dest = src ∨ src = 1) (heap.shape dest).toList shape.toList
    (dest = src → ∃ error : Error, called = .refuse heap error ∧ error.kind = .aliasingViolation) ∧
    (dest ≠ src →
      (called.answer = .ok () ↔ compatible) ∧
      (¬ compatible → ∃ error : Error, called = .refuse heap error ∧
        error.kind = .incompatibleShapes) ∧
      (compatible →
        (∃ result, addScaled beta (heap.data dest) (heap.layout dest) alpha (heap.data src)
          (heap.layout src) = .ok result) ∧
        ∀ sample channel row col, (⟨sample, channel, row, col⟩ : Index).Within (heap.shape dest) →
          let old := heap.element dest ⟨sample, channel, row, col⟩
          let value := heap.element src ⟨if shape.samples = 1 then 0 else sample,
            if shape.channels = 1 then 0 else channel, if shape.rows = 1 then 0 else row,
            if shape.cols = 1 then 0 else col⟩
          (beta = 0 ∨ beta = -0 →
            called.state.element dest ⟨sample, channel, row, col⟩ = alpha * value) ∧
          (beta ≠ 0 ∧ beta ≠ -0 →
            called.state.element dest ⟨sample, channel, row, col⟩ = beta * old + alpha * value))) ∧
    called.state.shape dest = heap.shape dest := by
  intro called shape compatible
  have accepted : compatible ↔ broadcasts (heap.shape dest) shape = true := broadcasts_iff.symm
  by_cases same : dest = src
  · subst same
    have refused : called = .refuse heap (.sharedStorage "add" "dest" "src") :=
      heap.add_same beta dest alpha
    exact ⟨fun _ => ⟨_, refused, rfl⟩, fun apart => absurd rfl apart, by rw [refused]; rfl⟩
  · refine ⟨fun shared => absurd shared same, ?_⟩
    by_cases broadcast : broadcasts (heap.shape dest) shape = true
    · obtain ⟨sum, answer, kept, each⟩ := add_of_broadcasts beta alpha same regular valid broadcast
      refine ⟨fun _ => ⟨⟨fun _ => accepted.mpr broadcast, fun _ => answer⟩,
        fun refused => absurd (accepted.mpr broadcast) refused, fun _ => ⟨sum, ?_⟩⟩, kept⟩
      intro sample channel row col within old value
      have blended : called.state.element dest ⟨sample, channel, row, col⟩ =
          blend beta old alpha value := each _ within
      refine ⟨fun zero => ?_, fun nonzero => ?_⟩
      · exact blended.trans (if_pos (beq_zero_iff.mpr zero))
      · exact blended.trans (if_neg fun zero => (beq_zero_iff.mp zero).elim nonzero.1 nonzero.2)
    · have refused : called = .refuse heap (.incompatibleShapes (heap.shape dest) shape) :=
        add_of_not_broadcasts beta alpha same broadcast
      have failed : ¬ called.answer = .ok () := by
        rw [refused]
        nofun
      refine ⟨fun _ => ⟨⟨fun answered => absurd answered failed,
        fun fits => absurd (accepted.mp fits) broadcast⟩,
        fun _ => ⟨_, refused, rfl⟩, fun fits => absurd (accepted.mp fits) broadcast⟩, ?_⟩
      rw [refused]
      rfl

-- A bias over two rows with a negative zero and with one, a source that has more channels
-- than its destination, and one element over an empty destination.
theorem add_broadcasts_source_nan :
    let nan := Float32.ofBits 0x7fc00000
    let created : Heap Float32 := (((Heap.empty.create #[nan, 1, 2, 3] ⟨1, 2, 2, 1⟩).state.create
      #[5, 1 / 0] ⟨1, 2, 1, 1⟩).state.create #[] ⟨2, 0, 1, 1⟩).state.create #[7]
        ⟨1, 1, 1, 1⟩ |>.state
    let cleared : Outcome (Heap Float32) (Event Float32) Unit := created.add (-0) ⟨0⟩ 2 ⟨1⟩
    let added : Outcome (Heap Float32) (Event Float32) Unit := created.add 3 ⟨0⟩ 2 ⟨1⟩
    let narrow : Outcome (Heap Float32) (Event Float32) Unit := created.add 1 ⟨3⟩ 1 ⟨1⟩
    let empty : Outcome (Heap Float32) (Event Float32) Unit := created.add 1 ⟨2⟩ 1 ⟨3⟩
    cleared.answer = .ok () ∧ cleared.state.element ⟨0⟩ ⟨0, 0, 0, 0⟩ = 2 * 5 ∧
      added.answer = .ok () ∧ added.state.element ⟨0⟩ ⟨0, 1, 1, 0⟩ = 3 * 3 + 2 * (1 / 0) ∧
      (∃ error : Error, narrow = .refuse created error ∧ error.kind = .incompatibleShapes) ∧
        empty.answer = .ok () := by
  intro nan created cleared added narrow empty
  have regular : created.Regular :=
    (((Heap.regular_empty.create _ _).create _ _).create _ _).create _ _
  have valid : created.Valid ⟨0⟩ := by decide
  have emptyValid : created.Valid ⟨2⟩ := by decide
  have narrowValid : created.Valid ⟨3⟩ := by decide
  have fits : List.Forall₂ (fun dest src => dest = src ∨ src = 1) [1, 2, 2, 1] [1, 2, 1, 1] := by
    decide
  have wide : ¬ List.Forall₂ (fun dest src => dest = src ∨ src = 1) [1, 1, 1, 1] [1, 2, 1, 1] := by
    decide
  have none : List.Forall₂ (fun dest src => dest = src ∨ src = 1) [0, 0, 0, 0] [1, 1, 1, 1] := by
    decide
  obtain ⟨clears, -, sum⟩ := (add_broadcasts_source regular valid ⟨1⟩ (-0) 2).2.1 (by decide)
  obtain ⟨adds, -, total⟩ := (add_broadcasts_source regular valid ⟨1⟩ 3 2).2.1 (by decide)
  obtain ⟨-, refuses, -⟩ := (add_broadcasts_source regular narrowValid ⟨1⟩ 1 1).2.1 (by decide)
  obtain ⟨nothing, -⟩ := (add_broadcasts_source regular emptyValid ⟨3⟩ 1 1).2.1 (by decide)
  have first : created.element ⟨1⟩ ⟨0, 0, 0, 0⟩ = 5 := rfl
  have second : created.element ⟨1⟩ ⟨0, 1, 0, 0⟩ = 1 / 0 := rfl
  have old : created.element ⟨0⟩ ⟨0, 1, 1, 0⟩ = 3 := rfl
  have clearedFirst := ((sum fits).2 0 0 0 0 (by decide)).1 (.inr rfl)
  have addedLast := ((total fits).2 0 1 1 0 (by decide)).2 (by decide)
  exact ⟨clears.mpr fits, clearedFirst.trans (congrArg (2 * ·) first), adds.mpr fits,
    addedLast.trans (congrArg₂ (3 * · + 2 * ·) old second), refuses wide, nothing.mpr none⟩

end TensorEngine.Heap

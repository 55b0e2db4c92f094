import Mathlib.Data.List.Basic
import Mathlib.Order.Bounds.Basic
import TensorEngine.Gradient.Comparison
import TensorEngine.Proofs.Pool.Scan
import TensorEngine.Proofs.Storage

/-! Which element the gradient check reports. The check scans the elements for the
greatest error, starting from the tolerance, and so ends at the first of the greatest
errors above it. An error that is not a number exceeds nothing and is exceeded by
nothing, so it neither becomes the worst nor stands in the way of another. -/

set_option autoImplicit false

namespace TensorEngine.Gradient

open Pool (Scanned raise)

variable {analytical numerical : Array Float32} {tolerance : Float32}

variable (analytical numerical) in
def errorAt (index : Nat) : Float32 :=
  scaledError (Buffer.cell analytical index) (Buffer.cell numerical index)

variable (analytical numerical) in
def offender (index : Nat) : Offender :=
  ⟨index, Buffer.cell analytical index, Buffer.cell numerical index,
    errorAt analytical numerical index⟩

variable (analytical numerical) in
@[simp] theorem scaled_offender (index : Nat) :
    (offender analytical numerical index).scaled = errorAt analytical numerical index := rfl

theorem offenders_eq_map (sizes : analytical.size = numerical.size) :
    offenders analytical numerical =
      (List.range analytical.size).map (offender analytical numerical) := by
  unfold offenders
  rw [← sizes, Nat.min_self]
  refine List.filterMap_eq_map_iff_forall_eq_some.mpr fun index member => ?_
  have inside := List.mem_range.mp member
  rw [Buffer.getElem?_eq_cell inside, Buffer.getElem?_eq_cell (sizes ▸ inside)]
  rfl

/-- The worst so far, and where a scan that starts from the tolerance stands beside it. -/
inductive Standing (analytical numerical : Array Float32) (tolerance : Float32) :
    Option Offender → Nat × Float32 → Prop where
  | start : Standing analytical numerical tolerance none (0, tolerance)
  | found {index : Nat} (exceeds : tolerance < errorAt analytical numerical index) :
    Standing analytical numerical tolerance (some (offender analytical numerical index))
      (index, errorAt analytical numerical index)

variable {worst : Option Offender} {best : Nat × Float32}

-- What exceeds the worst so far exceeds the tolerance, so the scan need not test it again.
theorem Standing.step (standing : Standing analytical numerical tolerance worst best)
    (index : Nat) :
    Standing analytical numerical tolerance
      (Offender.worse tolerance worst (offender analytical numerical index))
      (raise (errorAt analytical numerical) best index) := by
  unfold Offender.worse raise
  cases standing with
  | start =>
    by_cases above : tolerance < errorAt analytical numerical index
    · rw [if_pos above, if_pos (by simp [above])]
      exact .found above
    · rw [if_neg above, if_neg (by simp [above])]
      exact .start
  | @found known exceeds =>
    dsimp only
    by_cases worse : errorAt analytical numerical known < errorAt analytical numerical index
    · have above := LawfulComparison.lt_trans exceeds worse
      rw [if_pos worse, if_pos (by simp [above, worse])]
      exact .found above
    · rw [if_neg worse, if_neg (by simp [worse])]
      exact .found exceeds

theorem Standing.run (standing : Standing analytical numerical tolerance worst best)
    (rest : List Nat) :
    Standing analytical numerical tolerance
      ((rest.map (offender analytical numerical)).foldl (Offender.worse tolerance) worst)
      (rest.foldl (raise (errorAt analytical numerical)) best) := by
  induction rest generalizing worst best with
  | nil => exact standing
  | cons index rest ih => exact ih (standing.step index)

/-- The elements whose error exceeds the tolerance. -/
def Exceeding (analytical numerical : Array Float32) (tolerance : Float32) : Set Nat :=
  {index | index < analytical.size ∧ tolerance < errorAt analytical numerical index}

/-- Those of them whose error is maximal. -/
def Worst (analytical numerical : Array Float32) (tolerance : Float32) : Set Nat :=
  {index ∈ Exceeding analytical numerical tolerance | ∀ other ∈
    Exceeding analytical numerical tolerance,
    errorAt analytical numerical other ≤ errorAt analytical numerical index}

theorem mem_exceeding {index : Nat} : index ∈ Exceeding analytical numerical tolerance ↔
    index < analytical.size ∧ tolerance < errorAt analytical numerical index := Iff.rfl

theorem isNaN_of_exceeding {index : Nat}
    (exceeds : index ∈ Exceeding analytical numerical tolerance) :
    (errorAt analytical numerical index).isNaN = false :=
  float32_beq_self_iff.mp (LawfulComparison.beq_self_of_lt exceeds.2)

/-- A scan of all elements that has moved has ended at the first of the worst. -/
theorem isLeast_of_scanned {index : Nat}
    (scanned : Scanned (errorAt analytical numerical) (0, tolerance)
      (List.range analytical.size) (index, errorAt analytical numerical index))
    (exceeds : tolerance < errorAt analytical numerical index) :
    IsLeast (Worst analytical numerical tolerance) index := by
  generalize reached : (index, errorAt analytical numerical index) = best at scanned
  cases scanned with
  | unmoved =>
    rw [(Prod.mk.inj reached).2] at exceeds
    exact absurd exceeds (LawfulComparison.not_lt_self tolerance)
  | @moved before after offset place first equal greatest =>
    obtain rfl := (Prod.mk.inj reached).1
    have inside : index < analytical.size := List.mem_range.mp (place ▸ by simp)
    have found : index ∈ Exceeding analytical numerical tolerance := ⟨inside, exceeds⟩
    have atMost : ∀ other ∈ Exceeding analytical numerical tolerance,
        errorAt analytical numerical other ≤ errorAt analytical numerical index := fun other also =>
      float32_le_of_not_lt (isNaN_of_exceeding found) (isNaN_of_exceeding also)
        (greatest other (List.mem_range.mpr also.1))
    refine ⟨⟨found, atMost⟩, fun other worst => ?_⟩
    -- An earlier element that is as bad would have been met first.
    by_contra earlier
    have same := float32_beq_of_le (atMost other worst.1) (worst.2 index found)
    refine first other ?_ same
    have member : other ∈ before ++ index :: after := place ▸ List.mem_range.mpr worst.1.1
    have ascending : (before ++ index :: after).Pairwise (· < ·) := place ▸ List.pairwise_lt_range
    obtain ⟨-, later, -⟩ := List.pairwise_append.mp ascending
    rcases List.mem_append.mp member with early | rest
    · exact early
    · rcases List.mem_cons.mp rest with rfl | late
      · exact absurd (Nat.le_refl other) earlier
      · exact absurd (Nat.le_of_lt (List.rel_of_pairwise_cons later late)) earlier

/-- The check refuses exactly if an error exceeds the tolerance, and then reports the first
of the worst elements. -/
theorem compare_of_sizes (sizes : analytical.size = numerical.size) :
    (Exceeding analytical numerical tolerance = ∅ ∧
      compare analytical numerical tolerance = .ok ()) ∨
      ∃ index, IsLeast (Worst analytical numerical tolerance) index ∧
        compare analytical numerical tolerance =
        .error (.gradientCheck (Buffer.cell analytical index) (Buffer.cell numerical index)
          (Buffer.cell analytical index - Buffer.cell numerical index).abs index) := by
  have begins : Standing analytical numerical tolerance none (0, tolerance) := .start
  have unseen : Scanned (errorAt analytical numerical) (0, tolerance) [] (0, tolerance) :=
    .unmoved nofun
  have standing := begins.run (List.range analytical.size)
  have scanned := unseen.run (List.range analytical.size)
  rw [List.nil_append] at scanned
  unfold compare
  rw [if_neg (not_not.mpr sizes), offenders_eq_map sizes]
  generalize ((List.range analytical.size).map _).foldl _ none = worst at standing
  generalize (List.range analytical.size).foldl _ (0, tolerance) = best at standing scanned
  cases standing with
  | start =>
    refine .inl ⟨Set.eq_empty_of_forall_notMem fun index exceeds => ?_, rfl⟩
    exact scanned.greatest index (List.mem_range.mpr exceeds.1) exceeds.2
  | found exceeds => exact .inr ⟨_, isLeast_of_scanned scanned exceeds, rfl⟩

/-- The check tells lengths apart first. On elements of one length it refuses exactly if
some scaled error exceeds the tolerance, and reports the least index among those whose
error is maximal, with both slopes there and their distance. -/
theorem worst_offender_reported (analytical numerical : Array Float32) (tolerance : Float32) :
    let compared := compare analytical numerical tolerance
    (analytical.size ≠ numerical.size → ∃ error, compared = .error error ∧
      error.kind = .internalLogicError) ∧
    (analytical.size = numerical.size →
      ((∃ error, compared = .error error ∧ error.kind = .gradientCheckError) ↔
        ∃ index < analytical.size, tolerance < errorAt analytical numerical index) ∧
      ((∀ index < analytical.size, ¬ tolerance < errorAt analytical numerical index) →
        compared = .ok ()) ∧
      ∀ a n absError index, compared = .error (.gradientCheck a n absError index) ↔
        IsLeast (Worst analytical numerical tolerance) index ∧
          analytical[index]? = some a ∧ numerical[index]? = some n ∧ absError = (a - n).abs) := by
  intro compared
  refine ⟨fun differ => ⟨_, if_pos differ, rfl⟩, fun sizes => ?_⟩
  obtain ⟨none, passed⟩ | ⟨worst, least, reported⟩ :
      (Exceeding analytical numerical tolerance = ∅ ∧ compared = .ok ()) ∨
        _ := compare_of_sizes sizes
  · have within : ∀ index < analytical.size, ¬ tolerance < errorAt analytical numerical index :=
      fun index inside above => Set.notMem_empty index (none ▸ ⟨inside, above⟩)
    refine ⟨⟨fun ⟨_, failed, _⟩ => ?_,
      fun ⟨index, inside, above⟩ => absurd above (within index inside)⟩,
      fun _ => passed, fun a n absError index => ⟨fun failed => ?_, fun ⟨least, _⟩ => ?_⟩⟩
    · rw [passed] at failed
      cases failed
    · rw [passed] at failed
      cases failed
    · exact absurd least.1.1.2 (within index least.1.1.1)
  · have inside : worst < analytical.size := least.1.1.1
    have slope := Buffer.getElem?_eq_cell inside
    have otherSlope := Buffer.getElem?_eq_cell (sizes ▸ inside : worst < numerical.size)
    refine ⟨⟨fun _ => ⟨worst, inside, least.1.1.2⟩, fun _ => ⟨_, reported, rfl⟩⟩,
      fun within => absurd least.1.1.2 (within worst inside), fun a n absError index =>
        ⟨fun failed => ?_, ?_⟩⟩
    · cases reported.symm.trans failed
      exact ⟨least, slope, otherSlope, rfl⟩
    · rintro ⟨also, first, second, rfl⟩
      obtain rfl := least.unique also
      obtain rfl := Option.some.inj (slope.symm.trans first)
      obtain rfl := Option.some.inj (otherSlope.symm.trans second)
      exact reported

-- A NaN on either side of the worst element, and a later element that is as bad.
theorem worst_offender_reported_nan :
    let nan := Float32.ofBits 0x7fc00000
    let analytical : Array Float32 := #[nan, 3, 5, nan, 5, 1]
    let numerical : Array Float32 := #[1, 1, 1, 1, 1, 1]
    compare analytical numerical 0.5 = .error (.gradientCheck 5 1 (5 - 1 : Float32).abs 2) := by
  intro nan analytical numerical
  have sizes : analytical.size = numerical.size := by decide
  have exceeds : (0.5 : Float32) < errorAt analytical numerical 2 := by decide +kernel
  have others : ∀ other < 6, 0.5 < errorAt analytical numerical other →
      errorAt analytical numerical other ≤ errorAt analytical numerical 2 ∧
        (errorAt analytical numerical 2 ≤ errorAt analytical numerical other → 2 ≤ other) := by
          decide +kernel
  have found : 2 ∈ Exceeding analytical numerical 0.5 := mem_exceeding.mpr ⟨by decide, exceeds⟩
  have least : IsLeast (Worst analytical numerical 0.5) 2 := by
    refine ⟨⟨found, fun other also => (others other also.1 also.2).1⟩, fun other worst => ?_⟩
    exact (others other worst.1.1 worst.1.2).2 (worst.2 2 found)
  obtain ⟨-, -, reports⟩ := (worst_offender_reported analytical numerical 0.5).2 sizes
  exact (reports 5 1 (5 - 1 : Float32).abs 2).mpr ⟨least, rfl, rfl, rfl⟩

end TensorEngine.Gradient

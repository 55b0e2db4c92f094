import TensorEngine.Gradient.Comparison
import TensorEngine.Proofs.Float.Value

/-! What the gradient check accepts. It rejects an element whose scaled error exceeds the
tolerance. The error of finite elements is the exact one up to rounding; where one of them
is not finite it is NaN, which exceeds nothing. -/

set_option autoImplicit false

namespace TensorEngine.Gradient

open Float.Model (UnpackedFloat Format)
open Float.Model.UnpackedFloat

/-- An element is not held against the analytical gradient. -/
def Passes (tolerance a n : Float32) : Prop := ¬ tolerance < scaledError a n

instance (tolerance a n : Float32) : Decidable (Passes tolerance a n) :=
  inferInstanceAs (Decidable (¬ _))

/-! Which elements are looked at. -/

theorem foldl_worse_eq_none_iff {tolerance : Float32} {elements : List Offender}
    {worst : Option Offender} :
    elements.foldl (Offender.worse tolerance) worst = none ↔
      worst = none ∧ ∀ element ∈ elements, ¬ tolerance < element.scaled := by
  induction elements generalizing worst with
  | nil => simp
  | cons element rest ih =>
    have step : Offender.worse tolerance worst element = none ↔
        worst = none ∧ ¬ tolerance < element.scaled := by
      unfold Offender.worse
      by_cases above : tolerance < element.scaled
      · rcases worst with _ | known
        · simp [above]
        · by_cases replaces : known.scaled < element.scaled <;> simp [above, replaces]
      · simp [above]
    rw [List.foldl_cons, ih, step, List.forall_mem_cons, and_assoc]

theorem foldl_offenders_eq_none_iff {analytical numerical : Array Float32} {tolerance : Float32} :
    (offenders analytical numerical).foldl (Offender.worse tolerance) none = none ↔
      ∀ (i : Nat) (a n : Float32), analytical[i]? = some a → numerical[i]? = some n →
        Passes tolerance a n := by
  rw [foldl_worse_eq_none_iff, and_iff_right rfl]
  unfold offenders
  simp only [List.mem_filterMap, List.mem_range, Option.bind_eq_bind, Option.bind_eq_some_iff]
  constructor
  · intro passed i a n first second
    have inside := (Array.getElem?_eq_some_iff.mp first).1
    have insideOther := (Array.getElem?_eq_some_iff.mp second).1
    exact passed ⟨i, a, n, scaledError a n⟩ ⟨i, by omega, a, first, n, second, rfl⟩
  · rintro passed element ⟨i, -, a, first, n, second, same⟩
    rw [← Option.some.inj same]
    exact passed i a n first second

/-- An element passes unless its scaled error exceeds the tolerance. -/
theorem compare_eq_ok_iff {analytical numerical : Array Float32} {tolerance : Float32} :
    compare analytical numerical tolerance = .ok () ↔ analytical.size = numerical.size ∧
      ∀ (i : Nat) (a n : Float32), analytical[i]? = some a → numerical[i]? = some n →
        Passes tolerance a n := by
  unfold compare
  by_cases sizes : analytical.size = numerical.size
  · rw [if_neg (not_not.mpr sizes), and_iff_right sizes, ← foldl_offenders_eq_none_iff]
    cases (offenders analytical numerical).foldl (Offender.worse tolerance) none with
    | none => exact iff_of_true rfl rfl
    | some worst => exact iff_of_false nofun nofun
  · rw [if_pos sizes]
    exact iff_of_false nofun fun ⟨same, _⟩ => sizes same

/-! The scale of an error. -/

theorem larger_eq_or (first second : Float32) :
    larger first second = first ∨ larger first second = second := by
  unfold larger
  by_cases nan : first.isNaN = true
  · exact .inr (if_pos nan)
  · by_cases nan' : second.isNaN = true
    · exact .inl ((if_neg nan).trans (if_pos nan'))
    · by_cases less : first < second
      · exact .inr ((if_neg nan).trans ((if_neg nan').trans (if_pos less)))
      · exact .inl ((if_neg nan).trans ((if_neg nan').trans (if_neg less)))

-- Numbers are compared; there is no NaN to give way.
theorem larger_of_numbers {first second : Float32} (number : first.isNaN = false)
    (number' : second.isNaN = false) :
    larger first second = if first < second then second else first := by
  unfold larger
  rw [number, number']
  rfl

theorem exactValue_larger {first second : Float32} (finite : first.isFinite = true)
    (finite' : second.isFinite = true) :
    (larger first second).isFinite = true ∧
      exactValue (larger first second) = max (exactValue first) (exactValue second) := by
  refine ⟨?_, ?_⟩
  · rcases larger_eq_or first second with same | same <;> rw [same] <;> assumption
  · rw [larger_of_numbers (isNaN_of_isFinite finite) (isNaN_of_isFinite finite')]
    by_cases less : first < second
    · rw [if_pos less, max_eq_right ((float32_lt_iff_exactValue finite finite').mp less).le]
    · rw [if_neg less, max_eq_left
        (not_lt.mp (mt (float32_lt_iff_exactValue finite finite').mpr less))]

/-- A float that is finite or positive infinity. -/
def Upright (a : Float32) : Prop := a.isFinite = true ∨ a.toModel.unpack = .infinity .positive

theorem Upright.isNaN {a : Float32} (upright : Upright a) : a.isNaN = false := by
  rcases upright with finite | infinite
  · exact isNaN_of_isFinite finite
  · change a.toModel.unpack.isNaN = false
    rw [infinite]
    rfl

theorem upright_abs {a : Float32} (number : a.isNaN = false) : Upright a.abs := by
  change a.toModel.unpack.isNaN = false at number
  change a.abs.toModel.unpack.isFinite = true ∨ _
  rw [unpack_abs]
  cases unpacked : a.toModel.unpack with
  | notANumber =>
    rw [unpacked] at number
    cases number
  | infinity sign => exact .inr rfl
  | zero sign => exact .inl rfl
  | finite sign mantissa exponent positive => exact .inl rfl

theorem Upright.larger {first second : Float32} (upright : Upright first)
    (upright' : Upright second) :
    Upright (larger first second) := by
  rcases larger_eq_or first second with same | same <;> rw [same] <;> assumption

theorem unpack_larger_infinite {first second : Float32} (upright : Upright first)
    (upright' : Upright second) (infinite : first.toModel.unpack = .infinity .positive ∨
      second.toModel.unpack = .infinity .positive) :
    (larger first second).toModel.unpack = .infinity .positive := by
  have either := larger_of_numbers upright.isNaN upright'.isNaN
  rcases upright with finite | top <;> rcases upright' with finite' | top'
  · have apart {a : Float32} (finite : a.isFinite = true) :
        a.toModel.unpack ≠ .infinity .positive := by
      intro top
      change a.toModel.unpack.isFinite = true at finite
      rw [top] at finite
      cases finite
    exact absurd infinite (not_or.mpr ⟨apart finite, apart finite'⟩)
  · rw [either, if_pos (float32_lt_infinity finite top')]
    exact top'
  · have below := float32_lt_infinity finite' top
    rw [either, if_neg fun above =>
      LawfulComparison.not_lt_self _ (LawfulComparison.lt_trans above below)]
    exact top
  · rcases larger_eq_or first second with same | same <;> rw [same] <;> assumption

-- A difference with a number that is not finite is infinite itself, or no number.
theorem sub_infinite {first second : UnpackedFloat}
    (infinite : ¬ (first.isFinite = true ∧ second.isFinite = true)) :
    UnpackedFloat.sub Format.binary32 first second = .notANumber ∨
      (∃ sign, UnpackedFloat.sub Format.binary32 first second = .infinity sign) ∧
        first.isNaN = false ∧ second.isNaN = false ∧
        (first.abs = .infinity .positive ∨ second.abs = .infinity .positive) := by
  cases first with
  | notANumber => exact .inl rfl
  | infinity sign =>
    cases second with
    | notANumber => exact .inl rfl
    | infinity other =>
      cases sign <;> cases other
      case negative.negative | positive.positive => exact .inl rfl
      all_goals exact .inr ⟨⟨_, rfl⟩, rfl, rfl, .inl rfl⟩
    | _ => exact .inr ⟨⟨sign, rfl⟩, rfl, rfl, .inl rfl⟩
  | zero sign =>
    cases second with
    | notANumber => exact .inl rfl
    | infinity other => exact .inr ⟨⟨-other, rfl⟩, rfl, rfl, .inr rfl⟩
    | _ => exact absurd ⟨rfl, rfl⟩ infinite
  | finite sign mantissa exponent positive =>
    cases second with
    | notANumber => exact .inl rfl
    | infinity other => exact .inr ⟨⟨-other, rfl⟩, rfl, rfl, .inr rfl⟩
    | _ => exact absurd ⟨rfl, rfl⟩ infinite

theorem isNaN_div_infinite {a b : Float32}
    (invalid : a.toModel.unpack = .notANumber ∨ a.toModel.unpack = .infinity .positive ∧
      b.toModel.unpack = .infinity .positive) :
    (a / b).isNaN = true := by
  have quotient : UnpackedFloat.div Format.binary32 a.toModel.unpack b.toModel.unpack =
      .notANumber := by
    rcases invalid with nan | ⟨top, bottom⟩
    · rw [nan]
      rfl
    · rw [top, bottom]
      rfl
  change (Float32.Model.pack
    (UnpackedFloat.div Format.binary32 a.toModel.unpack b.toModel.unpack)).unpack.isNaN = true
  rw [quotient]
  rfl

theorem upright_one : Upright 1 := .inl rfl

/-- An element that is not finite, or is compared with one, has NaN for its error. -/
theorem isNaN_scaledError {a n : Float32} (infinite : ¬ (a.isFinite = true ∧ n.isFinite = true)) :
    (scaledError a n).isNaN = true := by
  have difference : (a - n).abs.toModel.unpack =
      (Float32.Model.pack (UnpackedFloat.sub Format.binary32 a.toModel.unpack
        n.toModel.unpack)).unpack.abs := unpack_abs (a - n)
  unfold scaledError
  apply isNaN_div_infinite
  rcases sub_infinite infinite with nan | ⟨⟨sign, infinity⟩, number, number', either⟩
  · rw [nan] at difference
    exact .inl difference
  · rw [infinity] at difference
    have size : (a - n).abs.toModel.unpack = .infinity .positive := by
      cases sign <;> exact difference
    have upright := upright_abs (a := a) number
    have upright' := upright_abs (a := n) number'
    refine .inr ⟨size, unpack_larger_infinite (upright_one.larger upright) upright' ?_⟩
    refine either.imp (fun first => ?_) fun second => (unpack_abs n).trans second
    exact unpack_larger_infinite upright_one upright (.inr ((unpack_abs a).trans first))

theorem exactValue_one : exactValue 1 = 1 := by
  have one : (1 : Float32).toModel.unpack = .finite .positive (2 ^ 23) (-23) (by decide) := rfl
  unfold exactValue
  rw [one, unpackedValue_positive]
  norm_num

/-- The scale of finite elements is what it is in exact arithmetic. -/
theorem exactValue_scale {a n : Float32} (finite : a.isFinite = true)
    (finite' : n.isFinite = true) :
    (larger (larger 1 a.abs) n.abs).isFinite = true ∧
      exactValue (larger (larger 1 a.abs) n.abs) = max 1 (max |exactValue a| |exactValue n|) := by
  have first :=
    exactValue_larger (show (1 : Float32).isFinite = true from rfl) ((isFinite_abs a).trans finite)
  have second := exactValue_larger first.1 ((isFinite_abs n).trans finite')
  rw [first.2, exactValue_one, exactValue_abs, exactValue_abs, max_assoc] at second
  exact second

-- The error is too large for its quotient to be rounded away, unless the scale is one.
theorem resolved_quotient {a n error : Float32} (near : Near |exactValue a - exactValue n| error) :
    Resolved (|exactValue error| / max 1 (max |exactValue a| |exactValue n|)) := by
  have close := near.close (resolved_abs_sub a n)
  rcases le_total (max |exactValue a| |exactValue n|) 1 with small | large
  · rw [max_eq_left small, div_one]
    have zero : exactValue 0 = 0 := rfl
    have resolved := resolved_abs_sub error 0
    rwa [zero, sub_zero] at resolved
  · rw [max_eq_right large]
    have nonneg := abs_nonneg (exactValue error)
    by_cases same : exactValue a = exactValue n
    · rw [same, sub_self, abs_zero, zero_sub, abs_neg, abs_abs] at close
      have zero : |exactValue error| = 0 := by linarith
      rw [zero, zero_div]
      exact .inr ⟨0, by simp⟩
    · have apart := max_le_mul_abs_sub large same
      have atMost := (abs_le.mp close).2
      left
      rw [le_div_iff₀ (lt_of_lt_of_le one_pos large)]
      have tiny : (2 : ℚ) ^ (-126 : ℤ) ≤ 1 / 2 ^ 26 := by norm_num
      calc 2 ^ (-126 : ℤ) * max |exactValue a| |exactValue n|
          ≤ 1 / 2 ^ 26 * max |exactValue a| |exactValue n| :=
            mul_le_mul_of_nonneg_right tiny (le_trans zero_le_one large)
        _ ≤ |exactValue error| := by linarith

/-- A finite element passes only if it passes the exact test with a tolerance that is
larger by two roundings. -/
theorem abs_sub_le_of_passed {a n tolerance : Float32} (finite : a.isFinite = true)
    (finite' : n.isFinite = true) (bounded : tolerance.isFinite = true)
    (passed : Passes tolerance a n) :
    |exactValue a - exactValue n| ≤
      (1 + 1 / 2 ^ 24) ^ 2 *
        (exactValue tolerance * max 1 (max |exactValue a| |exactValue n|)) := by
  obtain ⟨scaleFinite, scale⟩ := exactValue_scale finite finite'
  unfold Passes scaledError at passed
  generalize larger (larger 1 a.abs) n.abs = divisor at *
  have positive : 0 < exactValue divisor := by
    rw [scale]
    exact lt_of_lt_of_le one_pos (le_max_left ..)
  rcases near_sub finite finite' with near | ⟨sign, infinite⟩
  · have resolved := resolved_quotient near
    rw [← scale, ← exactValue_abs] at resolved
    rcases near_div ((isFinite_abs _).trans near.finite) scaleFinite
        (exactValue_abs (a - n) ▸ abs_nonneg _) positive with
      ⟨quotient, nonneg⟩ | infinite
    · have within := not_lt.mp (mt (float32_lt_iff_exactValue bounded quotient.finite).mpr passed)
      have first := (abs_le.mp (near.close (resolved_abs_sub a n))).2
      have second := (abs_le.mp (quotient.close resolved)).2
      rw [abs_of_nonneg nonneg, exactValue_abs, sub_le_iff_le_add, div_le_iff₀ positive] at second
      rw [← scale]
      have passes := mul_le_mul_of_nonneg_right within positive.le
      linarith
    · exact absurd (float32_lt_infinity bounded infinite) passed
  · have top : (a - n).abs.toModel.unpack = .infinity .positive := by
      rw [unpack_abs, infinite]
      rfl
    exact absurd (float32_lt_infinity bounded (unpack_infinity_div top scaleFinite positive)) passed

/-- What is accepted: gradients of one length whose elements all pass. Finite elements pass
only within the tolerance, up to two roundings; elements that are not finite always pass. -/
theorem accepted_up_to_rounding {tolerance : Float32} (bounded : tolerance.isFinite = true) :
    (∀ analytical numerical : Array Float32, compare analytical numerical tolerance = .ok () ↔
      analytical.size = numerical.size ∧ ∀ (i : Nat) (a n : Float32),
        analytical[i]? = some a → numerical[i]? = some n → Passes tolerance a n) ∧
    (∀ (objective : Objective Float32) (input : Handle) (analytical : Array Float32)
      (epsilon : Float32) (heap : Heap Float32),
        (check objective input analytical epsilon tolerance heap).answer = .ok () ↔
        ∃ found, (numerical objective input epsilon heap).answer = .ok found ∧
          compare analytical found tolerance = .ok ()) ∧
    ∀ a n : Float32,
      (a.isFinite = true → n.isFinite = true → Passes tolerance a n →
        |exactValue a - exactValue n| ≤
          (1 + 1 / 2 ^ 24) ^ 2 *
            (exactValue tolerance * max 1 (max |exactValue a| |exactValue n|))) ∧
      (¬ (a.isFinite = true ∧ n.isFinite = true) → Passes tolerance a n) := by
  refine ⟨fun _ _ => compare_eq_ok_iff, fun objective input analytical epsilon heap => ?_,
    fun a n => ⟨?_, ?_⟩⟩
  · unfold check
    rw [Outcome.answer_andThen_eq_ok_iff]
    simp only [Outcome.answer_ofExcept_eq_ok_iff]
  · exact fun finite finite' passed => abs_sub_le_of_passed finite finite' bounded passed
  · intro infinite above
    have number := float32_beq_self_iff.mp (LawfulComparison.beq_self_of_lt above)
    exact absurd (number.symm.trans (isNaN_scaledError infinite)) Bool.false_ne_true

theorem accepted_up_to_rounding_quarter :
    let analytical : Array Float32 := #[2.25, Float32.ofBits 0xff800000]
    let numerical : Array Float32 := #[2, 5]
    compare analytical numerical 0.25 = .ok () ∧
      |exactValue 2.25 - exactValue 2| ≤
        (1 + 1 / 2 ^ 24) ^ 2 *
          (exactValue 0.25 * max 1 (max |exactValue 2.25| |exactValue 2|)) := by
  intro analytical numerical
  have bounded : (0.25 : Float32).isFinite = true := by decide +kernel
  obtain ⟨accepts, -, bounds⟩ := accepted_up_to_rounding bounded
  have first : Passes 0.25 2.25 2 := by decide +kernel
  have second : Passes 0.25 (Float32.ofBits 0xff800000) 5 := (bounds _ _).2 (by decide +kernel)
  refine ⟨(accepts analytical numerical).mpr ⟨rfl, fun i a n held held' => ?_⟩, ?_⟩
  · match i with
    | 0 =>
      cases held
      cases held'
      exact first
    | 1 =>
      cases held
      cases held'
      exact second
  · exact (bounds 2.25 2).1 (by decide +kernel) (by decide +kernel) first

/-- Elements that fail the documented test are accepted: NaN and infinity next to a number,
and numbers whose difference is rounded. -/
theorem failing_elements_accepted :
    let nan := Float32.ofBits 0x7fc00000
    let infinity := Float32.ofBits 0x7f800000
    let heap : Heap Float32 := ⟨#[⟨Descriptor.new.setSize ⟨1, 1, 1, 1⟩, #[1]⟩]⟩
    let objective : Objective Float32 :=
      fun heap => .ofExcept heap (dotProduct (heap.data ⟨0⟩) (heap.data ⟨0⟩))
    compare #[nan] #[2] 0.25 = .ok () ∧ nan.isNaN = true ∧ compare #[infinity] #[2] 0.25 = .ok () ∧
      (check objective ⟨0⟩ #[nan] 0.5 0.25 heap).answer.toBool = true ∧
      compare #[16777216] #[-1] 1 = .ok () ∧
        1 * max 1 (max |exactValue 16777216| |exactValue (-1)|) <
        |exactValue 16777216 - exactValue (-1)| := by
  intro nan infinity heap objective
  have single {a n tolerance : Float32} (passed : Passes tolerance a n) :
      compare #[a] #[n] tolerance = .ok () := by
    refine compare_eq_ok_iff.mpr ⟨rfl, fun i a' n' held held' => ?_⟩
    match i with
    | 0 =>
      cases held
      cases held'
      exact passed
  have large : exactValue 16777216 = 16777216 := by
    have unpacked : (16777216 : Float32).toModel.unpack = .finite .positive (2 ^ 23) 1
        (by decide) := rfl
    unfold exactValue
    rw [unpacked, unpackedValue_positive]
    norm_num
  have one : exactValue (-1) = -1 := by
    have unpacked : (-1 : Float32).toModel.unpack = .finite .negative (2 ^ 23) (-23) (by decide) :=
      rfl
    unfold exactValue
    rw [unpacked, unpackedValue_negative]
    norm_num
  refine ⟨single (by decide +kernel), by decide +kernel, single (by decide +kernel),
    by decide +kernel, single (by decide +kernel), ?_⟩
  rw [large, one]
  norm_num

end TensorEngine.Gradient

import TensorEngine.Proofs.Float

/-! Rounding of numbers to floats. A mantissa and two residual bits tell how a number lies
between two mantissas; shifting keeps this, and rounding then moves the number by at most
half a unit. What is rounded lies within one part in 2 ^ 24 of a float, unless it is too
small for a whole mantissa and no multiple of the smallest float either. -/

set_option autoImplicit false

namespace TensorEngine

open Float.Model (UnpackedFloat Format totalExponent)
open Float.Model.UnpackedFloat

/-- How a number lies above a mantissa. -/
def Residue : Accuracy → ℚ → Prop
  | .exact, rest => rest = 0
  | .inexact .lt, rest => 0 < rest ∧ rest < 1 / 2
  | .inexact .eq, rest => rest = 1 / 2
  | .inexact .gt, rest => 1 / 2 < rest ∧ rest < 1

theorem Residue.bounds {accuracy : Accuracy} {rest : ℚ} (residue : Residue accuracy rest) :
    0 ≤ rest ∧ rest < 1 := by
  rcases accuracy with _ | (_ | _ | _) <;> simp only [Residue] at residue <;> constructor <;>
    linarith

def Represents (extended : ExtendedMantissa) (number : ℚ) : Prop :=
  Residue extended.accuracy (number - extended.mantissa)

variable {extended : ExtendedMantissa} {number : ℚ}

theorem represents_ofMantissaAndAccuracy {mantissa : ℕ} {accuracy : Accuracy} :
    Represents (.ofMantissaAndAccuracy mantissa accuracy) number ↔
      Residue accuracy (number - mantissa) := by
  rcases accuracy with _ | (_ | _ | _) <;> exact Iff.rfl

theorem Represents.shiftRightOne (represents : Represents extended number) :
    Represents extended.shiftRightOne (number / 2) := by
  obtain ⟨mantissa, round, sticky⟩ := extended
  have halves : (2 * (mantissa / 2 : ℕ) + (mantissa % 2 : ℕ) : ℚ) = mantissa := by
    exact_mod_cast Nat.div_add_mod mantissa 2
  have rest : number / 2 - (mantissa / 2 : ℕ) =
      (number - mantissa) / 2 + (mantissa % 2 : ℕ) / 2 := by
    rw [← halves]
    ring
  unfold Represents at represents ⊢
  unfold ExtendedMantissa.shiftRightOne
  dsimp only
  rw [rest]
  generalize number - mantissa = above at represents
  rcases Nat.mod_two_eq_zero_or_one mantissa with bit | bit <;> rw [bit] <;> cases round <;>
    cases sticky <;>
    simp only [ExtendedMantissa.accuracy, Residue, bne_self_eq_false, Nat.reduceBNe, Bool.or_false,
      Bool.or_true, Nat.cast_zero, Nat.cast_one] at represents ⊢
  case inl.false.false | inr.false.false => linarith
  all_goals constructor <;> linarith

theorem Represents.shiftRight (represents : Represents extended number) (places : ℕ) :
    Represents (extended >>> places) (number / 2 ^ places) := by
  induction places with
  | zero => rwa [pow_zero, div_one]
  | succ places ih =>
    have next := ih.shiftRightOne
    rwa [div_div, ← pow_succ] at next

/-- Rounding moves a number by at most half a unit. -/
theorem Represents.abs_sub_le (represents : Represents extended number) :
    |number - extended.roundedMantissa| ≤ 1 / 2 := by
  obtain ⟨mantissa, round, sticky⟩ := extended
  unfold Represents at represents
  cases round <;> cases sticky <;>
    simp only [ExtendedMantissa.accuracy, Residue, ExtendedMantissa.roundedMantissa,
      Accuracy.roundToNearestEven] at represents ⊢
  · rw [represents]
    norm_num
  · rw [abs_le]
    constructor <;> linarith
  · rcases Nat.mod_two_eq_zero_or_one mantissa with even | odd
    · rw [even, Nat.add_zero, represents, abs_of_pos (by norm_num)]
    · rw [odd, abs_le]
      push_cast
      constructor <;> linarith
  · rw [abs_le]
    push_cast
    constructor <;> linarith

/-- Rounding does not cross whole numbers. -/
theorem Represents.le_rounded (represents : Represents extended number) {whole : ℕ}
    (below : whole ≤ number) :
    whole ≤ extended.roundedMantissa := by
  by_contra crossed
  have short : (extended.roundedMantissa : ℚ) + 1 ≤ whole := by
    exact_mod_cast Nat.lt_of_not_le crossed
  have close := (abs_le.mp represents.abs_sub_le).2
  linarith

theorem Represents.rounded_le (represents : Represents extended number) {whole : ℕ}
    (above : number ≤ whole) :
    extended.roundedMantissa ≤ whole := by
  by_contra crossed
  have long : (whole : ℚ) + 1 ≤ extended.roundedMantissa := by
    exact_mod_cast Nat.lt_of_not_le crossed
  have close := (abs_le.mp represents.abs_sub_le).1
  linarith

/-! Unpacked floats. -/

def Canonical : UnpackedFloat → Prop
  | .finite _ mantissa exponent _ =>
    mantissa < 2 ^ 24 ∧ -149 ≤ exponent ∧ (2 ^ 23 ≤ mantissa ∨ exponent = -149)
  | _ => True

def magnitude : UnpackedFloat → ℚ
  | .finite _ mantissa exponent _ => mantissa * 2 ^ exponent
  | _ => 0

/-- Numbers that rounding hardly moves: those of a whole mantissa, and the multiples of the
least float. -/
def Resolved (number : ℚ) : Prop :=
  2 ^ (-126 : ℤ) ≤ number ∨ ∃ multiple : ℕ, number = multiple * 2 ^ (-149 : ℤ)

/-- The float, not packed yet, that a number is rounded to. -/
structure Rounded (number : ℚ) (float : UnpackedFloat) : Prop where
  finite : float.isFinite = true
  canonical : Canonical float
  close : Resolved number → |number - magnitude float| ≤ magnitude float / 2 ^ 24

theorem two_zpow_add (a b : ℤ) : (2 : ℚ) ^ (a + b) = 2 ^ a * 2 ^ b := zpow_add₀ two_ne_zero a b

theorem two_zpow_pos (a : ℤ) : (0 : ℚ) < 2 ^ a := zpow_pos two_pos a

theorem two_zpow_pred (a : ℤ) : (2 : ℚ) ^ a = 2 * 2 ^ (a - 1) := by
  rw [← zpow_one_add₀ two_ne_zero, add_sub_cancel]

-- In units of the least float a resolved number has a whole mantissa, or is whole itself.
theorem Resolved.counted (resolved : Resolved number) :
    2 ^ 23 ≤ number / 2 ^ (-149 : ℤ) ∨ ∃ whole : ℕ, number / 2 ^ (-149 : ℤ) = whole := by
  rcases resolved with long | ⟨multiple, rfl⟩
  · left
    rw [le_div_iff₀ (two_zpow_pos _)]
    calc (2 : ℚ) ^ 23 * 2 ^ (-149 : ℤ) = 2 ^ (-126 : ℤ) := (two_zpow_add 23 (-149)).symm
      _ ≤ number := long
  · exact .inr ⟨multiple, mul_div_cancel_right₀ _ (two_zpow_pos _).ne'⟩

-- A mantissa that has been rounded up to one bit too many is even.
theorem shift_carry {mantissa : ℕ} {exponent : ℤ} (short : mantissa ≤ 2 ^ 24)
    (least : -149 ≤ exponent) (normal : 2 ^ 23 ≤ mantissa ∨ exponent = -149) :
    ∃ mantissa' exponent', shiftToTargetExponent Format.binary32 mantissa exponent .exact =
        (⟨mantissa', false, false⟩, exponent') ∧
      (mantissa' : ℚ) * 2 ^ exponent' = mantissa * 2 ^ exponent ∧
      mantissa' < 2 ^ 24 ∧ -149 ≤ exponent' ∧ (2 ^ 23 ≤ mantissa' ∨ exponent' = -149) := by
  unfold shiftToTargetExponent shiftToExponent
  dsimp only
  rw [targetExponent_binary32, totalExponent]
  rcases Nat.lt_or_eq_of_le short with fits | rfl
  · have log : mantissa.log2 < 24 := by
      rcases Nat.eq_zero_or_pos mantissa with rfl | positive
      · decide
      · exact (Nat.log2_lt (by omega)).mpr fits
    have still : (max ((mantissa.log2 : ℤ) + 1 + exponent - 24) (-149) - exponent).toNat = 0 := by
      omega
    rw [still, Int.natCast_zero, Int.add_zero]
    exact ⟨mantissa, exponent, rfl, rfl, fits, least, normal⟩
  · have log : Nat.log2 (2 ^ 24) = 24 := Nat.log2_two_pow
    have once : (max (((2 ^ 24 : ℕ).log2 : ℤ) + 1 + exponent - 24) (-149) - exponent).toNat =
        1 := by
      rw [log]
      omega
    rw [once]
    refine ⟨2 ^ 23, exponent + 1, rfl, ?_, by norm_num, by omega, .inl (Nat.le_refl _)⟩
    rw [two_zpow_add]
    norm_num
    ring

theorem represents_shiftToExponent {mantissa : ℕ} {exponent target : ℤ} {accuracy : Accuracy}
    {number : ℚ} (residue : Residue accuracy (number / 2 ^ exponent - mantissa))
    (below : exponent ≤ target) :
    Represents (shiftToExponent mantissa exponent accuracy target).1 (number / 2 ^ target) ∧
      (shiftToExponent mantissa exponent accuracy target).2 = target := by
  have places : exponent + ((target - exponent).toNat : ℤ) = target := by omega
  refine ⟨?_, places⟩
  have shifted :=
    (represents_ofMantissaAndAccuracy.mpr residue).shiftRight (target - exponent).toNat
  rwa [div_div, ← zpow_natCast, ← two_zpow_add, places] at shifted

/-- The unit that a number is rounded to leaves a mantissa of at most 24 bits, and of no
fewer unless it is the least one. -/
theorem target_bounds {mantissa : ℕ} {exponent : ℤ} {number : ℚ}
    (low : (mantissa : ℚ) * 2 ^ exponent ≤ number) (high : number < (mantissa + 1) * 2 ^ exponent)
    (below : exponent ≤ Format.binary32.targetExponent (totalExponent mantissa exponent)) :
    let target := Format.binary32.targetExponent (totalExponent mantissa exponent)
    number / 2 ^ target ≤ 2 ^ 24 ∧ -149 ≤ target ∧
      (2 ^ 23 ≤ number / 2 ^ target ∨ target = -149) := by
  intro target
  have total : target = max ((mantissa.log2 : ℤ) + 1 + exponent - 24) (-149) := by
    rw [← totalExponent]
    exact targetExponent_binary32 _
  refine ⟨?_, by omega, ?_⟩
  · have bits : (mantissa : ℚ) + 1 ≤ 2 ^ ((mantissa.log2 : ℤ) + 1) := by
      exact_mod_cast Nat.lt_log2_self (n := mantissa)
    rw [div_le_iff₀ (two_zpow_pos target)]
    calc number ≤ (mantissa + 1) * 2 ^ exponent := high.le
      _ ≤ 2 ^ ((mantissa.log2 : ℤ) + 1) * 2 ^ exponent :=
        mul_le_mul_of_nonneg_right bits (two_zpow_pos _).le
      _ = 2 ^ ((mantissa.log2 : ℤ) + 1 + exponent) := (two_zpow_add ..).symm
      _ ≤ 2 ^ (24 + target) := zpow_le_zpow_right₀ one_le_two (by omega)
      _ = 2 ^ 24 * 2 ^ target := by rw [two_zpow_add]; norm_num
  · by_cases least : target = -149
    · exact .inr least
    · left
      have nonzero : mantissa ≠ 0 := by
        rintro rfl
        have none : Nat.log2 0 = 0 := rfl
        omega
      have bits : (2 : ℚ) ^ (mantissa.log2 : ℤ) ≤ mantissa := by
        exact_mod_cast Nat.log2_self_le nonzero
      rw [le_div_iff₀ (two_zpow_pos target)]
      calc (2 : ℚ) ^ 23 * 2 ^ target = 2 ^ (23 + target) := by rw [two_zpow_add]; norm_num
        _ = 2 ^ ((mantissa.log2 : ℤ) + exponent) := by congr 1; omega
        _ = 2 ^ (mantissa.log2 : ℤ) * 2 ^ exponent := two_zpow_add ..
        _ ≤ mantissa * 2 ^ exponent := mul_le_mul_of_nonneg_right bits (two_zpow_pos _).le
        _ ≤ number := low

-- A resolved number is rounded to a whole mantissa or kept.
theorem Represents.close (represents : Represents extended number)
    (resolved : 2 ^ 23 ≤ number ∨ ∃ whole : ℕ, number = whole) :
    |number - extended.roundedMantissa| ≤ extended.roundedMantissa / 2 ^ 24 := by
  rcases resolved with long | ⟨whole, same⟩
  · have whole : 2 ^ 23 ≤ extended.roundedMantissa := represents.le_rounded (by exact_mod_cast long)
    have atLeast : (2 ^ 23 : ℚ) ≤ extended.roundedMantissa := by exact_mod_cast whole
    have half := represents.abs_sub_le
    linarith
  · have kept : extended.roundedMantissa = whole :=
      Nat.le_antisymm (represents.rounded_le same.le) (represents.le_rounded same.ge)
    rw [kept, same, sub_self, abs_zero]
    exact div_nonneg whole.cast_nonneg (by norm_num)

/-- A number that is known to enough places is rounded to a float. -/
theorem rounded_roundWithAccuracy {mantissa : ℕ} {exponent : ℤ} {accuracy : Accuracy} {number : ℚ}
    (sign : Sign) (residue : Residue accuracy (number / 2 ^ exponent - mantissa))
    (below : exponent ≤ Format.binary32.targetExponent (totalExponent mantissa exponent)) :
    Rounded number (roundWithAccuracy Format.binary32 sign mantissa exponent accuracy) := by
  have unit := two_zpow_pos exponent
  obtain ⟨atLeast, atMost⟩ := residue.bounds
  obtain ⟨high, least, low⟩ := target_bounds ((le_div_iff₀ unit).mp (sub_nonneg.mp atLeast))
    ((div_lt_iff₀ unit).mp (sub_lt_iff_lt_add'.mp atMost)) below
  obtain ⟨represents, place⟩ := represents_shiftToExponent residue below
  unfold roundWithAccuracy
  have once : shiftToTargetExponent Format.binary32 mantissa exponent accuracy =
    shiftToExponent mantissa exponent
    accuracy (Format.binary32.targetExponent (totalExponent mantissa exponent)) := rfl
  rw [once]
  generalize Format.binary32.targetExponent (totalExponent mantissa exponent) = target at *
  generalize shiftToExponent mantissa exponent accuracy target = shifted at *
  obtain ⟨extended, reached⟩ := shifted
  dsimp only at represents place ⊢
  subst place
  have short : extended.roundedMantissa ≤ 2 ^ 24 := represents.rounded_le (by exact_mod_cast high)
  have normal : 2 ^ 23 ≤ extended.roundedMantissa ∨ reached = -149 :=
    low.imp_left fun long => represents.le_rounded (by exact_mod_cast long)
  obtain ⟨final, exponent', again, same, canonical⟩ := shift_carry short least normal
  have close : Resolved number → |number - final * 2 ^ exponent'| ≤
      final * 2 ^ exponent' / 2 ^ 24 := by
    intro resolved
    have counted : 2 ^ 23 ≤ number / 2 ^ reached ∨ ∃ whole : ℕ, number / 2 ^ reached = whole := by
      rcases low with long | rfl
      · exact .inl long
      · exact resolved.counted
    have positive := two_zpow_pos reached
    have scaled := mul_le_mul_of_nonneg_right (represents.close counted) positive.le
    rw [same]
    calc |number - extended.roundedMantissa * 2 ^ reached|
        = |number / 2 ^ reached - extended.roundedMantissa| * 2 ^ reached := by
          rw [← abs_of_pos positive, ← abs_mul, abs_of_pos positive, sub_mul,
            div_mul_cancel₀ _ positive.ne']
      _ ≤ extended.roundedMantissa / 2 ^ 24 * 2 ^ reached := scaled
      _ = extended.roundedMantissa * 2 ^ reached / 2 ^ 24 := by ring
  rw [again]
  dsimp only
  by_cases zero : final = 0
  · rw [dif_pos zero]
    subst zero
    refine ⟨rfl, trivial, fun resolved => ?_⟩
    simpa [magnitude] using close resolved
  · rw [dif_neg zero]
    exact ⟨rfl, canonical, close⟩

/-! Operations. -/

theorem rounded_round (sign : Sign) {mantissa : ℕ} (positive : 0 < mantissa) (exponent : ℤ) :
    Rounded (mantissa * 2 ^ exponent)
      (UnpackedFloat.round Format.binary32 sign mantissa exponent) := by
  unfold UnpackedFloat.round decreaseExponent
  dsimp only
  rw [Nat.shiftLeft_eq]
  generalize shift : (exponent - Format.binary32.targetExponent
    (totalExponent mantissa exponent)).toNat = places
  have total : totalExponent (mantissa * 2 ^ places) (exponent - places) =
      totalExponent mantissa exponent := by
    unfold totalExponent
    rw [log2_mul_two_pow positive]
    omega
  refine rounded_roundWithAccuracy sign ?_ ?_
  · have scaled : (mantissa : ℚ) * 2 ^ exponent =
        mantissa * 2 ^ places * 2 ^ (exponent - places) := by
      rw [mul_assoc, ← zpow_natCast, ← two_zpow_add]
      congr 2
      omega
    rw [scaled, mul_div_cancel_right₀ _ (two_zpow_pos _).ne']
    push_cast
    exact sub_self _
  · rw [total]
    omega

theorem rounded_normalize (mantissa : ℤ) (exponent : ℤ) (zeroSign : Sign) :
    Rounded |mantissa * 2 ^ exponent|
      (UnpackedFloat.normalize Format.binary32 mantissa exponent zeroSign) := by
  unfold UnpackedFloat.normalize
  rw [abs_mul, abs_of_pos (two_zpow_pos exponent)]
  rcases lt_trichotomy mantissa 0 with negative | rfl | positive
  · have rounded := rounded_round .negative (show 0 < (-mantissa).toNat by omega) exponent
    have same : (((-mantissa).toNat : ℕ) : ℚ) = -mantissa := by
      exact_mod_cast Int.toNat_of_nonneg (by omega : 0 ≤ -mantissa)
    rw [compare_lt_iff_lt.mpr negative, abs_of_neg (by exact_mod_cast negative), ← same]
    exact rounded
  · rw [compare_eq_iff_eq.mpr rfl, Int.cast_zero, abs_zero, zero_mul]
    exact ⟨rfl, trivial, fun _ => by simp [magnitude]⟩
  · have rounded := rounded_round .positive (show 0 < mantissa.toNat by omega) exponent
    have same : ((mantissa.toNat : ℕ) : ℚ) = mantissa := by
      exact_mod_cast Int.toNat_of_nonneg positive.le
    rw [compare_gt_iff_gt.mpr positive, abs_of_pos (by exact_mod_cast positive), ← same]
    exact rounded

theorem residue_accuracyOfFraction {numerator denominator : ℕ} (proper : numerator < denominator) :
    Residue (accuracyOfFraction numerator denominator) (numerator / denominator) := by
  have positive : (0 : ℚ) < denominator := by exact_mod_cast Nat.zero_lt_of_lt proper
  unfold accuracyOfFraction
  by_cases zero : numerator = 0
  · rw [if_pos zero, zero]
    simp [Residue]
  · rw [if_neg zero]
    have above : (0 : ℚ) < numerator := by exact_mod_cast Nat.pos_of_ne_zero zero
    have below : (numerator : ℚ) < denominator := by exact_mod_cast proper
    rcases lt_trichotomy (2 * numerator) denominator with less | same | greater
    · rw [compare_lt_iff_lt.mpr less]
      have half : (2 * numerator : ℚ) < denominator := by exact_mod_cast less
      exact ⟨div_pos above positive, by rw [div_lt_iff₀ positive]; linarith⟩
    · rw [compare_eq_iff_eq.mpr same]
      have half : (2 * numerator : ℚ) = denominator := by exact_mod_cast same
      change (numerator : ℚ) / denominator = 1 / 2
      rw [div_eq_iff positive.ne']
      linarith
    · rw [compare_gt_iff_gt.mpr greater]
      have half : (denominator : ℚ) < 2 * numerator := by exact_mod_cast greater
      exact ⟨by rw [lt_div_iff₀ positive]; linarith, by rw [div_lt_iff₀ positive]; linarith⟩

theorem scaled_quotient (first : ℕ) {second places : ℕ} (positive : 0 < second)
    {firstExponent secondExponent target : ℤ}
    (shifted : firstExponent - secondExponent = target + places) :
    (first : ℚ) * 2 ^ firstExponent / (second * 2 ^ secondExponent) / 2 ^ target =
    (first * 2 ^ places : ℕ) / second := by
  have powers : (2 : ℚ) ^ firstExponent = 2 ^ secondExponent * 2 ^ target * 2 ^ places := by
    rw [← zpow_natCast, ← two_zpow_add, ← two_zpow_add]
    congr 1
    omega
  have nonzero : (second : ℚ) ≠ 0 := by exact_mod_cast positive.ne'
  have unit := (two_zpow_pos target).ne'
  have otherUnit := (two_zpow_pos secondExponent).ne'
  rw [powers]
  push_cast
  field_simp

theorem residue_quotient (dividend : ℕ) {divisor : ℕ} (positive : 0 < divisor) :
    Residue (accuracyOfFraction (dividend % divisor) divisor)
      ((dividend : ℚ) / divisor - (dividend / divisor : ℕ)) := by
  have nonzero : (divisor : ℚ) ≠ 0 := by exact_mod_cast positive.ne'
  have split : (dividend : ℚ) = divisor * (dividend / divisor : ℕ) + (dividend % divisor : ℕ) := by
    exact_mod_cast (Nat.div_add_mod dividend divisor).symm
  have above : (dividend : ℚ) / divisor - (dividend / divisor : ℕ) =
      (dividend % divisor : ℕ) / divisor := by
    rw [div_sub' nonzero, sub_eq_iff_eq_add'.mpr split]
  rw [above]
  exact residue_accuracyOfFraction (Nat.mod_lt _ positive)

-- A quotient has at least as many bits as the lengths of its operands tell.
theorem log2_lt_of_quotient {dividend divisor : ℕ} (dividendPositive : 0 < dividend)
    (positive : 0 < divisor) :
    dividend.log2 < (dividend / divisor).log2 + 1 + (divisor.log2 + 1) := by
  rw [Nat.log2_lt dividendPositive.ne', Nat.pow_add]
  calc dividend < divisor * (dividend / divisor + 1) := Nat.lt_mul_div_succ _ positive
    _ = (dividend / divisor + 1) * divisor := Nat.mul_comm ..
    _ ≤ _ := Nat.mul_le_mul Nat.lt_log2_self Nat.lt_log2_self.le

theorem log2_lt_of_no_quotient {dividend divisor : ℕ} (dividendPositive : 0 < dividend)
    (positive : 0 < divisor) (none : dividend / divisor = 0) :
    dividend.log2 < divisor.log2 + 1 := by
  rw [Nat.log2_lt dividendPositive.ne']
  have below : dividend < divisor := (Nat.div_eq_zero_iff.mp none).resolve_left positive.ne'
  exact below.trans Nat.lt_log2_self

/-- A quotient is computed to enough places to be rounded. -/
theorem rounded_div (sign sign' : Sign) {first second : ℕ} (firstPositive : 0 < first)
    (secondPositive : 0 < second) (firstExponent secondExponent : ℤ) :
    Rounded (first * 2 ^ firstExponent / (second * 2 ^ secondExponent))
      (UnpackedFloat.div Format.binary32 (.finite sign first firstExponent firstPositive)
        (.finite sign' second secondExponent secondPositive)) := by
  change Rounded _ (roundWithAccuracy Format.binary32 (sign / sign') (divCore ..).1 (divCore ..).2.1
    (divCore ..).2.2)
  unfold divCore
  dsimp only
  rw [Nat.shiftLeft_eq, targetExponent_binary32]
  generalize exponent : min (firstExponent - secondExponent)
    (max (totalExponent first firstExponent -
    totalExponent second secondExponent - 24) (-149)) = target
  generalize shift : (firstExponent - secondExponent - target).toNat = places
  have shifted : firstExponent - secondExponent = target + places := by omega
  refine rounded_roundWithAccuracy (sign / sign') ?_ ?_
  · rw [scaled_quotient first secondPositive shifted]
    exact residue_quotient _ secondPositive
  · have positive := Nat.mul_pos firstPositive (Nat.two_pow_pos places)
    have bits := log2_lt_of_quotient positive secondPositive
    have short := log2_lt_of_no_quotient positive secondPositive
    rw [log2_mul_two_pow firstPositive] at bits short
    rw [targetExponent_binary32]
    unfold totalExponent at exponent ⊢
    rcases Nat.eq_zero_or_pos (first * 2 ^ places / second) with none | some
    · have log := short none
      rw [none, Nat.log2_zero]
      omega
    · omega

end TensorEngine

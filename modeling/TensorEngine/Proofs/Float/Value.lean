import TensorEngine.Proofs.Comparison
import TensorEngine.Proofs.Float.Rounding

/-! Exact values of finite floats. They are compared as their values are, and the
difference and the quotient of two floats are the exact ones, rounded, or infinite. -/

set_option autoImplicit false

namespace TensorEngine

open Float.Model (UnpackedFloat Format)
open Float.Model.UnpackedFloat

/-! Unpacking what has been packed. -/

theorem unpack_normal {b : BitVec Format.binary32.numBits} (notInfinite : unpackExponent b ≠ -1#8)
    (notLeast : unpackExponent b ≠ 0#8) :
    unpack Format.binary32 b = .finite (Sign.ofBitVec (unpackSign b))
      (2 ^ 23 + (unpackMantissa b).toNat) ((unpackExponent b).toNat - 150) (by omega) := by
  unfold unpack
  dsimp only
  rw [if_neg notInfinite, if_neg notLeast]
  simp only [toNat_implicit]
  rfl

theorem unpack_subnormal {b : BitVec Format.binary32.numBits} (least : unpackExponent b = 0#8)
    (nonzero : 0 < (unpackMantissa b).toNat) :
    unpack Format.binary32 b = .finite (Sign.ofBitVec (unpackSign b)) (unpackMantissa b).toNat
      (-149) nonzero := by
  have apart : unpackMantissa b ≠ 0#23 := fun zero => nonzero.ne' (congrArg BitVec.toNat zero)
  unfold unpack
  dsimp only
  rw [least, if_neg (by decide), if_pos rfl, dif_neg apart]
  rfl

theorem unpack_normalComponents (sign : Sign) {mantissa stored : ℕ} (whole : 2 ^ 23 ≤ mantissa)
    (short : mantissa < 2 ^ 24) (positive : 0 < stored) (inRange : stored < 255) :
    unpack Format.binary32
      (packComponents Format.binary32 sign (BitVec.ofNat 8 stored) (BitVec.ofNat 23 mantissa)) =
      .finite sign mantissa (stored - 150) (Nat.lt_of_lt_of_le (by decide) whole) := by
  generalize packed : packComponents Format.binary32 sign (BitVec.ofNat 8 stored)
    (BitVec.ofNat 23 mantissa) = bits
  have signOf : Sign.ofBitVec (unpackSign bits) = sign := by
    rw [← packed, unpackSign_packComponents, Sign.ofBitVec_toBitVec]
  have exponentOf : (unpackExponent bits).toNat = stored := by
    rw [← packed, unpackExponent_packComponents, BitVec.toNat_ofNat]
    exact Nat.mod_eq_of_lt (show _ < 2 ^ 8 by omega)
  have mantissaOf : (unpackMantissa bits).toNat = mantissa - 2 ^ 23 := by
    rw [← packed, unpackMantissa_packComponents, BitVec.toNat_ofNat]
    change mantissa % 2 ^ 23 = _
    omega
  have notInfinite : unpackExponent bits ≠ -1#8 := by
    intro all
    rw [all] at exponentOf
    have top : (-1#8).toNat = 255 := rfl
    omega
  have notLeast : unpackExponent bits ≠ 0#8 := by
    intro none
    rw [none] at exponentOf
    have bottom : (0#8).toNat = 0 := rfl
    omega
  rw [unpack_normal notInfinite notLeast]
  congr 1 <;> omega

theorem unpack_subnormalComponents (sign : Sign) {mantissa : ℕ} (positive : 0 < mantissa)
    (part : mantissa < 2 ^ 23) :
    unpack Format.binary32 (packComponents Format.binary32 sign 0#8 (BitVec.ofNat 23 mantissa)) =
      .finite sign mantissa (-149) positive := by
  generalize packed : packComponents Format.binary32 sign 0#8 (BitVec.ofNat 23 mantissa) = bits
  have signOf : Sign.ofBitVec (unpackSign bits) = sign := by
    rw [← packed, unpackSign_packComponents, Sign.ofBitVec_toBitVec]
  have exponentOf : unpackExponent bits = 0#8 := by rw [← packed, unpackExponent_packComponents]
  have mantissaOf : (unpackMantissa bits).toNat = mantissa := by
    rw [← packed, unpackMantissa_packComponents, BitVec.toNat_ofNat]
    exact Nat.mod_eq_of_lt part
  rw [unpack_subnormal exponentOf (by omega)]
  congr 1

theorem unpack_pack_finite {sign : Sign} {mantissa : ℕ} {exponent : ℤ} {positive : 0 < mantissa}
    (canonical : Canonical (.finite sign mantissa exponent positive)) :
    (Float32.Model.pack (.finite sign mantissa exponent positive)).unpack =
      if exponent ≤ 104 then .finite sign mantissa exponent positive else .infinity sign := by
  obtain ⟨short, least, normal⟩ := canonical
  change unpack Format.binary32 (pack Format.binary32 (.finite sign mantissa exponent positive)) = _
  unfold pack
  dsimp only
  rw [exponentBias_binary32]
  by_cases inRange : exponent ≤ 104
  · have biased : ¬ 2 ^ 8 ≤ (exponent + (127 : ℕ) + (23 : ℕ)).toNat + 1 := by omega
    rw [if_pos inRange, if_neg biased]
    by_cases long : mantissa.log2 + 1 = Format.binary32.mantissaBits
    · have whole : 2 ^ 23 ≤ mantissa := by
        have log : mantissa.log2 = 23 := by
          change _ = 24 at long
          omega
        exact ((Nat.log2_eq_iff positive.ne').mp log).1
      rw [if_pos long]
      refine (unpack_normalComponents sign whole short (by omega) (by omega)).trans ?_
      congr 1
      omega
    · have part : mantissa < 2 ^ 23 := by
        by_contra whole
        have log := (Nat.log2_eq_iff positive.ne').mpr ⟨Nat.le_of_not_lt whole, short⟩
        exact long (congrArg (· + 1) log)
      have lowest : exponent = -149 := by omega
      subst lowest
      rw [if_neg long]
      exact unpack_subnormalComponents sign positive part
  · have biased : 2 ^ 8 ≤ (exponent + (127 : ℕ) + (23 : ℕ)).toNat + 1 := by omega
    rw [if_neg inRange, if_pos biased]
    cases sign <;> rfl

theorem canonical_unpack (b : BitVec Format.binary32.numBits) :
    Canonical (unpack Format.binary32 b) := by
  cases unpacked : unpack Format.binary32 b with
  | finite sign mantissa exponent positive => exact unpack_canonical unpacked
  | _ => trivial

/-- A float that has been rounded is packed as it is, unless it is too large. -/
theorem Rounded.unpack_pack {number : ℚ} {float : UnpackedFloat} (rounded : Rounded number float) :
    (Float32.Model.pack float).unpack = float ∨ ∃ sign mantissa exponent positive,
      float = .finite sign mantissa exponent positive ∧
        (Float32.Model.pack float).unpack = .infinity sign := by
  cases float with
  | notANumber => cases rounded.finite
  | infinity sign => cases rounded.finite
  | zero sign => exact .inl (unpack_pack_zero sign)
  | finite sign mantissa exponent positive =>
    rw [unpack_pack_finite rounded.canonical]
    by_cases inRange : exponent ≤ 104
    · exact .inl (if_pos inRange)
    · exact .inr ⟨sign, mantissa, exponent, positive, rfl, if_neg inRange⟩

theorem unpack_abs (a : Float32) : a.abs.toModel.unpack = a.toModel.unpack.abs := by
  change (Float32.Model.pack a.toModel.unpack.abs).unpack = _
  cases unpacked : a.toModel.unpack with
  | notANumber => rfl
  | infinity sign => cases sign <;> rfl
  | zero sign => exact unpack_pack_zero .positive
  | finite sign mantissa exponent positive =>
    have canonical : Canonical (.finite sign mantissa exponent positive) :=
      unpacked ▸ canonical_unpack _
    have packed : (Float32.Model.pack (.finite sign mantissa exponent positive)).unpack =
        .finite sign mantissa exponent positive := by
      have same := congrArg (fun b => b.toModel.unpack) (repack a)
      rwa [unpacked] at same
    rw [unpack_pack_finite canonical] at packed
    have upright : Canonical (.finite .positive mantissa exponent positive) := canonical
    change (Float32.Model.pack (.finite .positive mantissa exponent positive)).unpack = _
    rw [unpack_pack_finite upright]
    by_cases inRange : exponent ≤ 104
    · exact if_pos inRange
    · rw [if_neg inRange] at packed
      cases packed

/-! Values. -/

def unpackedValue : UnpackedFloat → ℚ
  | .finite sign mantissa exponent _ => sign.apply mantissa * 2 ^ exponent
  | _ => 0

/-- The number that a finite float stands for. -/
def exactValue (a : Float32) : ℚ := unpackedValue a.toModel.unpack

theorem abs_unpackedValue (float : UnpackedFloat) : |unpackedValue float| = magnitude float := by
  cases float with
  | finite sign mantissa exponent positive =>
    have size : |((sign.apply mantissa : ℤ) : ℚ)| = mantissa := by
      cases sign <;> simp [Sign.apply]
    unfold unpackedValue magnitude
    rw [abs_mul, abs_of_pos (two_zpow_pos exponent), size]
  | _ => exact abs_zero

theorem exactValue_abs (a : Float32) : exactValue a.abs = |exactValue a| := by
  unfold exactValue
  rw [unpack_abs, abs_unpackedValue]
  cases a.toModel.unpack <;> rfl

theorem isFinite_abs (a : Float32) : a.abs.isFinite = a.isFinite := by
  change a.abs.toModel.unpack.isFinite = a.toModel.unpack.isFinite
  rw [unpack_abs]
  cases a.toModel.unpack <;> rfl

/-- Canonical mantissas and exponents are ordered as what they stand for. -/
theorem scaled_lt {first second : ℕ} {e f : ℤ} (short : first < 2 ^ 24) (least : -149 ≤ e)
    (normal : 2 ^ 23 ≤ second ∨ f = -149) (before : e < f ∨ e = f ∧ first < second) :
    (first : ℚ) * 2 ^ e < second * 2 ^ f := by
  rcases before with lower | ⟨rfl, less⟩
  · have whole : (2 ^ 23 : ℚ) ≤ second := by exact_mod_cast normal.resolve_right (by omega)
    have part : (first : ℚ) < 2 ^ 24 := by exact_mod_cast short
    calc (first : ℚ) * 2 ^ e < 2 ^ 24 * 2 ^ e := mul_lt_mul_of_pos_right part (two_zpow_pos e)
      _ = 2 ^ 23 * 2 ^ (e + 1) := by rw [two_zpow_add]; ring
      _ ≤ 2 ^ 23 * 2 ^ f :=
        mul_le_mul_of_nonneg_left (zpow_le_zpow_right₀ one_le_two (by omega)) (by norm_num)
      _ ≤ second * 2 ^ f := mul_le_mul_of_nonneg_right whole (two_zpow_pos f).le
  · exact mul_lt_mul_of_pos_right (by exact_mod_cast less) (two_zpow_pos e)

theorem unpackedValue_positive (mantissa : ℕ) (exponent : ℤ) (positive : 0 < mantissa) :
    unpackedValue (.finite .positive mantissa exponent positive) = mantissa * 2 ^ exponent := by
  simp [unpackedValue, Sign.apply]

theorem unpackedValue_negative (mantissa : ℕ) (exponent : ℤ) (positive : 0 < mantissa) :
    unpackedValue (.finite .negative mantissa exponent positive) = -(mantissa * 2 ^ exponent) := by
  simp [unpackedValue, Sign.apply]

theorem unpackedValue_lt {first second : UnpackedFloat} {r s : ℤ ×ₗ ℤ ×ₗ ℤ}
    (canonical : Canonical first) (other : Canonical second) (finite : first.isFinite = true)
    (otherFinite : second.isFinite = true) (rank : floatRank first = some r)
    (otherRank : floatRank second = some s) (less : r < s) :
    unpackedValue first < unpackedValue second := by
  have size {mantissa : ℕ} (positive : 0 < mantissa) (exponent : ℤ) :
      (0 : ℚ) < mantissa * 2 ^ exponent :=
    mul_pos (by exact_mod_cast positive) (two_zpow_pos exponent)
  rcases first with (_ | _) | _ | _ | ⟨_ | _, m, e, p⟩ <;> (try cases finite) <;>
    rcases second with (_ | _) | _ | _ | ⟨_ | _, n, f, q⟩ <;> (try cases otherFinite) <;>
    cases rank <;> cases otherRank <;> simp [Prod.Lex.toLex_lt_toLex] at less
  -- What is left are the pairs of signs that are in order.
  · rw [unpackedValue_positive]
    exact size q f
  · rw [unpackedValue_negative]
    exact neg_neg_of_pos (size p e)
  · rw [unpackedValue_negative, unpackedValue_negative]
    exact neg_lt_neg (scaled_lt other.1 other.2.1 canonical.2.2
      (less.imp_right fun same => ⟨same.1.symm, same.2⟩))
  · rw [unpackedValue_negative, unpackedValue_positive]
    exact (neg_neg_of_pos (size p e)).trans (size q f)
  · rw [unpackedValue_positive, unpackedValue_positive]
    exact scaled_lt canonical.1 canonical.2.1 other.2.2 less

-- Only zeros of different sign share a rank, and both stand for zero.
theorem unpackedValue_eq {first second : UnpackedFloat}
    (rank : floatRank first = floatRank second) :
    unpackedValue first = unpackedValue second := by
  rcases first with (_ | _) | _ | _ | ⟨_ | _, m, e, p⟩ <;>
    rcases second with (_ | _) | _ | _ | ⟨_ | _, n, f, q⟩ <;>
    simp_all [floatRank, unpackedValue, Sign.apply]

theorem isNaN_of_isFinite {a : Float32} (finite : a.isFinite = true) : a.isNaN = false := by
  cases nan : a.isNaN with
  | false => rfl
  | true => exact absurd finite (not_isFinite_of_isNaN nan)

/-- Finite floats are compared as the numbers that they stand for. -/
theorem float32_lt_iff_exactValue {a b : Float32} (finite : a.isFinite = true)
    (otherFinite : b.isFinite = true) :
    a < b ↔ exactValue a < exactValue b := by
  obtain ⟨r, rank⟩ := exists_float32Rank (isNaN_of_isFinite finite)
  obtain ⟨s, otherRank⟩ := exists_float32Rank (isNaN_of_isFinite otherFinite)
  have lifts :=
    unpackedValue_lt (canonical_unpack _) (canonical_unpack _) finite otherFinite rank otherRank
  have falls :=
    unpackedValue_lt (canonical_unpack _) (canonical_unpack _) otherFinite finite otherRank rank
  have compared : a < b ↔ r < s := by
    rw [float32_lt_iff, rank, otherRank]
    simp
  rw [compared]
  refine ⟨lifts, fun less => ?_⟩
  rcases lt_trichotomy r s with below | rfl | above
  · exact below
  · exact absurd less (unpackedValue_eq (rank.trans otherRank.symm)).not_lt
  · exact absurd less (falls above).not_gt

theorem float32_lt_infinity {a b : Float32} (finite : a.isFinite = true)
    (infinite : b.toModel.unpack = .infinity .positive) :
    a < b := by
  change a.toModel.unpack.isFinite = true at finite
  have top : float32Rank b = some (toLex (2, toLex (0, 0))) := congrArg floatRank infinite
  suffices ∃ r, float32Rank a = some r ∧ r < toLex (2, toLex (0, 0)) by
    obtain ⟨r, rank, below⟩ := this
    exact float32_lt_iff.mpr ⟨r, rank, _, top, below⟩
  unfold float32Rank
  generalize a.toModel.unpack = value at finite
  rcases value with (_ | _) | _ | _ | ⟨_ | _, m, e, p⟩ <;> (try cases finite) <;>
    exact ⟨_, rfl, by simp [Prod.Lex.toLex_lt_toLex]⟩

/-! Distances. -/

-- Every float is a multiple of the least one.
theorem exists_multiple {float : UnpackedFloat} (canonical : Canonical float) :
    ∃ multiple : ℤ, unpackedValue float = multiple * 2 ^ (-149 : ℤ) := by
  cases float with
  | finite sign mantissa exponent positive =>
    have power : (2 : ℚ) ^ exponent = ((2 ^ (exponent + 149).toNat : ℕ) : ℚ) * 2 ^ (-149 : ℤ) := by
      push_cast
      rw [← zpow_natCast, ← two_zpow_add]
      congr 1
      have least := canonical.2.1
      omega
    refine ⟨sign.apply mantissa * (2 ^ (exponent + 149).toNat : ℕ), ?_⟩
    change ((sign.apply mantissa : ℤ) : ℚ) * 2 ^ exponent = _
    rw [power]
    push_cast
    ring
  | _ => exact ⟨0, by simp [unpackedValue]⟩

theorem resolved_abs_sub (a b : Float32) : Resolved |exactValue a - exactValue b| := by
  obtain ⟨i, first⟩ := exists_multiple (canonical_unpack a.toModel.toBits.toBitVec)
  obtain ⟨j, second⟩ := exists_multiple (canonical_unpack b.toModel.toBits.toBitVec)
  refine .inr ⟨(i - j).natAbs, ?_⟩
  calc |exactValue a - exactValue b| = |(i - j : ℚ) * 2 ^ (-149 : ℤ)| := by
        rw [sub_mul, ← first, ← second]
        rfl
    _ = |(i - j : ℚ)| * 2 ^ (-149 : ℤ) := by rw [abs_mul, abs_of_pos (two_zpow_pos _)]
    _ = (i - j).natAbs * 2 ^ (-149 : ℤ) := by rw [Nat.cast_natAbs]; push_cast; rfl

-- Two numbers are apart by half a unit of the greater one at least, if it is not subnormal.
theorem scaled_gap {first second : ℕ} {e f : ℤ} (whole : 2 ^ 23 ≤ first) (short : first < 2 ^ 24)
    (least : -149 ≤ e) (otherShort : second < 2 ^ 24) (normal : 2 ^ 23 ≤ second ∨ f = -149)
    (less : (second : ℚ) * 2 ^ f < first * 2 ^ e) :
    (second : ℚ) * 2 ^ f + 2 ^ (e - 1) ≤ first * 2 ^ e := by
  have step : (2 : ℚ) ^ e = 2 * 2 ^ (e - 1) := two_zpow_pred e
  rcases lt_trichotomy f e with lower | rfl | higher
  · have most : (second : ℚ) ≤ 2 ^ 24 - 1 := by
      have bound : (second : ℚ) + 1 ≤ 2 ^ 24 := by exact_mod_cast otherShort
      linarith
    have atLeast : (2 : ℚ) ^ 23 ≤ first := by exact_mod_cast whole
    have power : (2 : ℚ) ^ f ≤ 2 ^ (e - 1) := zpow_le_zpow_right₀ one_le_two (by omega)
    have unit := two_zpow_pos (e - 1)
    calc (second : ℚ) * 2 ^ f + 2 ^ (e - 1) ≤ (2 ^ 24 - 1) * 2 ^ (e - 1) + 2 ^ (e - 1) := by gcongr
      _ = 2 ^ 23 * 2 ^ e := by rw [step]; ring
      _ ≤ first * 2 ^ e := mul_le_mul_of_nonneg_right atLeast (two_zpow_pos e).le
  · have fewer : (second : ℚ) + 1 ≤ first := by
      exact_mod_cast lt_of_mul_lt_mul_right less (two_zpow_pos f).le
    have scaled := mul_le_mul_of_nonneg_right fewer (two_zpow_pos f).le
    have unit := two_zpow_pos (f - 1)
    rw [add_mul, one_mul] at scaled
    linarith
  · exact absurd less (scaled_lt short least normal (.inl higher)).not_gt

/-- Numbers that are not below one keep a distance to smaller ones, in proportion to their size. -/
theorem le_mul_distance {first second : UnpackedFloat} (canonical : Canonical first)
    (other : Canonical second) (large : 1 ≤ magnitude first)
    (less : magnitude second < magnitude first) :
    magnitude first ≤ 2 ^ 25 * (magnitude first - magnitude second) := by
  rcases first with _ | _ | _ | ⟨sign, m, e, p⟩
  case finite =>
    rcases second with _ | _ | _ | ⟨sign', n, f, q⟩
    case finite =>
      obtain ⟨short, least, normal⟩ := canonical
      obtain ⟨otherShort, -, otherNormal⟩ := other
      unfold magnitude at large less ⊢
      dsimp only at large less ⊢
      have part : (m : ℚ) < 2 ^ 24 := by exact_mod_cast short
      have whole : 2 ^ 23 ≤ m := by
        refine normal.resolve_right ?_
        rintro rfl
        have tiny : (m : ℚ) * 2 ^ (-149 : ℤ) < 2 ^ 24 * 2 ^ (-149 : ℤ) :=
          mul_lt_mul_of_pos_right part (two_zpow_pos _)
        have small : (2 : ℚ) ^ 24 * 2 ^ (-149 : ℤ) < 1 := by norm_num
        linarith
      have gap := scaled_gap whole short least otherShort otherNormal less
      have below : (m : ℚ) * 2 ^ e ≤ 2 ^ 25 * 2 ^ (e - 1) := by
        have scaled := mul_le_mul_of_nonneg_right part.le (two_zpow_pos e).le
        rw [two_zpow_pred] at scaled ⊢
        linarith
      linarith
    all_goals
      change magnitude _ ≤ 2 ^ 25 * (magnitude _ - 0)
      linarith
  all_goals exact absurd large (by simp [magnitude])

theorem max_le_mul_abs_sub {a b : Float32} (large : 1 ≤ max |exactValue a| |exactValue b|)
    (apart : exactValue a ≠ exactValue b) :
    max |exactValue a| |exactValue b| ≤ 2 ^ 25 * |exactValue a - exactValue b| := by
  have distance {c e : Float32} (large : 1 ≤ |exactValue c|)
      (less : |exactValue e| < |exactValue c|) :
        |exactValue c| ≤ 2 ^ 25 * (|exactValue c| - |exactValue e|) := by
    unfold exactValue at large less ⊢
    rw [abs_unpackedValue] at large less ⊢
    rw [abs_unpackedValue] at less ⊢
    exact le_mul_distance (canonical_unpack _) (canonical_unpack _) large less
  rcases lt_trichotomy |exactValue a| |exactValue b| with less | same | greater
  · rw [max_eq_right less.le] at large ⊢
    have bound := distance large less
    have reverse := abs_sub_abs_le_abs_sub (exactValue b) (exactValue a)
    rw [abs_sub_comm (exactValue b)] at reverse
    linarith
  · rcases abs_eq_abs.mp same with equal | opposite
    · exact absurd equal apart
    · rw [← same, max_self, opposite, sub_eq_add_neg, ← two_mul, abs_mul, abs_neg, abs_two]
      have nonneg := abs_nonneg (exactValue b)
      linarith
  · rw [max_eq_left greater.le] at large ⊢
    have bound := distance large greater
    have reverse := abs_sub_abs_le_abs_sub (exactValue a) (exactValue b)
    linarith

/-! Differences and quotients. -/

theorem rounded_magnitude {float : UnpackedFloat} (finite : float.isFinite = true)
    (canonical : Canonical float) :
    Rounded (magnitude float) float where
  finite := finite
  canonical := canonical
  close _ := by
    rw [sub_self, abs_zero, ← abs_unpackedValue]
    exact div_nonneg (abs_nonneg _) (by norm_num)

theorem rounded_zero (sign : Sign) : Rounded 0 (.zero sign) :=
  ⟨rfl, trivial, fun _ => by simp [magnitude]⟩

theorem apply_shiftLeft (sign : Sign) (mantissa : ℕ) {exponent lower : ℤ}
    (below : lower ≤ exponent) :
    ((sign.apply (mantissa <<< (exponent - lower).toNat : ℕ) : ℤ) : ℚ) * 2 ^ lower =
      sign.apply mantissa * 2 ^ exponent := by
  have scaled : ((mantissa <<< (exponent - lower).toNat : ℕ) : ℚ) * 2 ^ lower =
      mantissa * 2 ^ exponent := by
    rw [Nat.shiftLeft_eq]
    push_cast
    rw [mul_assoc, ← zpow_natCast, ← two_zpow_add]
    congr 2
    omega
  cases sign with
  | positive => exact_mod_cast scaled
  | negative =>
    change ((-((mantissa <<< (exponent - lower).toNat : ℕ) : ℤ) : ℤ) : ℚ) * 2 ^ lower =
      ((-(mantissa : ℤ) : ℤ) : ℚ) * 2 ^ exponent
    rw [Int.cast_neg, Int.cast_neg, Int.cast_natCast, Int.cast_natCast, neg_mul, neg_mul, scaled]

theorem rounded_sub {first second : UnpackedFloat} (finite : first.isFinite = true)
    (otherFinite : second.isFinite = true) (canonical : Canonical first)
    (other : Canonical second) :
    Rounded |unpackedValue first - unpackedValue second|
      (UnpackedFloat.sub Format.binary32 first second) := by
  cases first with
  | notANumber => cases finite
  | infinity sign => cases finite
  | zero sign =>
    cases second with
    | notANumber => cases otherFinite
    | infinity sign => cases otherFinite
    | zero sign' =>
      have none : |unpackedValue (.zero sign) - unpackedValue (.zero sign')| = 0 := by
        simp [unpackedValue]
      rw [none]
      cases sign <;> cases sign' <;> exact rounded_zero _
    | finite sign' mantissa exponent positive =>
      rw [show unpackedValue (.zero sign) = 0 from rfl, zero_sub, abs_neg, abs_unpackedValue]
      have negated : Canonical (.finite (-sign') mantissa exponent positive) := other
      exact rounded_magnitude rfl negated
  | finite sign mantissa exponent positive =>
    cases second with
    | notANumber => cases otherFinite
    | infinity sign => cases otherFinite
    | zero sign' =>
      rw [show unpackedValue (.zero sign') = 0 from rfl, sub_zero, abs_unpackedValue]
      exact rounded_magnitude finite canonical
    | finite sign' mantissa' exponent' positive' =>
      have rounded :=
        rounded_normalize (sign.apply (mantissa <<< (exponent - min exponent exponent').toNat : ℕ) -
        sign'.apply (mantissa' <<< (exponent' - min exponent exponent').toNat : ℕ))
          (min exponent exponent') .positive
      rw [Int.cast_sub, sub_mul, apply_shiftLeft sign mantissa (min_le_left ..),
        apply_shiftLeft sign' mantissa' (min_le_right ..)] at rounded
      exact rounded

/-- The number that a float stands for is close to another one. -/
structure Near (number : ℚ) (a : Float32) : Prop where
  finite : a.isFinite = true
  close : Resolved number → |number - (|exactValue a|)| ≤ |exactValue a| / 2 ^ 24

theorem Rounded.near {number : ℚ} {float : UnpackedFloat} (rounded : Rounded number float)
    {a : Float32} (packed : a.toModel.unpack = float) : Near number a where
  finite := (congrArg UnpackedFloat.isFinite packed).trans rounded.finite
  close resolved := by
    unfold exactValue
    rw [packed, abs_unpackedValue]
    exact rounded.close resolved

/-- The difference of two floats is close to the exact one, if it is not infinite. -/
theorem near_sub {a b : Float32} (finite : a.isFinite = true) (otherFinite : b.isFinite = true) :
    Near |exactValue a - exactValue b| (a - b) ∨ ∃ sign,
      (a - b).toModel.unpack = .infinity sign := by
  have rounded := rounded_sub finite otherFinite (canonical_unpack _) (canonical_unpack _)
  rcases rounded.unpack_pack with packed | ⟨sign, -, -, -, -, packed⟩
  · exact .inl (rounded.near packed)
  · exact .inr ⟨sign, packed⟩

theorem div_positive {first second : ℕ} (firstPositive : 0 < first) (secondPositive : 0 < second)
    (firstExponent secondExponent : ℤ) :
    let quotient :=
      UnpackedFloat.div Format.binary32 (.finite .positive first firstExponent firstPositive)
      (.finite .positive second secondExponent secondPositive)
    quotient = .zero .positive ∨ ∃ mantissa exponent positive,
      quotient = .finite .positive mantissa exponent positive := by
  intro quotient
  change roundWithAccuracy Format.binary32 .positive _ _ _ = _ ∨
    ∃ mantissa exponent positive, roundWithAccuracy Format.binary32 .positive _ _ _ = _
  unfold roundWithAccuracy
  dsimp only
  generalize shiftToTargetExponent Format.binary32 _ _ .exact = last
  by_cases zero : last.1.mantissa = 0
  · exact .inl (dif_pos zero)
  · exact .inr ⟨_, _, Nat.pos_of_ne_zero zero, dif_neg zero⟩

theorem eq_of_nonneg {float : UnpackedFloat} (finite : float.isFinite = true)
    (nonneg : 0 ≤ unpackedValue float) :
    (∃ sign, float = .zero sign) ∨
      ∃ mantissa exponent positive, float = .finite .positive mantissa exponent positive := by
  rcases float with _ | _ | sign | ⟨_ | _, mantissa, exponent, above⟩
  case zero => exact .inl ⟨sign, rfl⟩
  case finite.positive => exact .inr ⟨mantissa, exponent, above, rfl⟩
  case finite.negative =>
    rw [unpackedValue_negative] at nonneg
    have size : (0 : ℚ) < mantissa * 2 ^ exponent :=
      mul_pos (by exact_mod_cast above) (two_zpow_pos exponent)
    exact absurd nonneg (neg_neg_of_pos size).not_ge
  all_goals cases finite

theorem unpack_infinity_div {a b : Float32} (infinite : a.toModel.unpack = .infinity .positive)
    (finite : b.isFinite = true) (positive : 0 < exactValue b) :
    (a / b).toModel.unpack = .infinity .positive := by
  change (Float32.Model.pack
    (UnpackedFloat.div Format.binary32 a.toModel.unpack b.toModel.unpack)).unpack = _
  change b.toModel.unpack.isFinite = true at finite
  unfold exactValue at positive
  rw [infinite]
  generalize b.toModel.unpack = divisor at finite positive
  obtain ⟨sign, rfl⟩ | ⟨m, e, p, rfl⟩ := eq_of_nonneg finite positive.le
  · exact absurd positive (lt_irrefl 0)
  · have quotient : UnpackedFloat.div Format.binary32 (.infinity .positive)
      (.finite .positive m e p) = .infinity .positive := rfl
    rw [quotient]
    rfl

/-- So is the quotient of two floats that are not negative. -/
theorem near_div {a b : Float32} (finite : a.isFinite = true) (otherFinite : b.isFinite = true)
    (nonneg : 0 ≤ exactValue a) (positive : 0 < exactValue b) :
    Near (exactValue a / exactValue b) (a / b) ∧ 0 ≤ exactValue (a / b) ∨
      (a / b).toModel.unpack = .infinity .positive := by
  change a.toModel.unpack.isFinite = true at finite
  change b.toModel.unpack.isFinite = true at otherFinite
  have divides : (a / b).toModel.unpack =
      (Float32.Model.pack (UnpackedFloat.div Format.binary32 a.toModel.unpack
        b.toModel.unpack)).unpack := rfl
  unfold exactValue at nonneg positive ⊢
  generalize b.toModel.unpack = divisor at *
  generalize a.toModel.unpack = dividend at *
  obtain ⟨sign, rfl⟩ | ⟨n, f, q, rfl⟩ := eq_of_nonneg otherFinite positive.le
  · exact absurd positive (lt_irrefl 0)
  · obtain ⟨sign, rfl⟩ | ⟨m, e, p, rfl⟩ := eq_of_nonneg finite nonneg
    · left
      have zero : unpackedValue (.zero sign) / unpackedValue (.finite .positive n f q) = 0 :=
        zero_div _
      have packed : (a / b).toModel.unpack = .zero (sign / .positive) :=
        divides.trans (unpack_pack_zero _)
      rw [zero, packed]
      exact ⟨(rounded_zero _).near packed, le_rfl⟩
    · have rounded := rounded_div .positive .positive p q e f
      have signed := div_positive p q e f
      rw [unpackedValue_positive, unpackedValue_positive]
      generalize UnpackedFloat.div Format.binary32 (.finite .positive m e p)
        (.finite .positive n f q) = float at *
      rcases rounded.unpack_pack with packed | ⟨sign, mantissa, exponent, above, rfl, packed⟩
      · refine .inl ⟨rounded.near (divides.trans packed), ?_⟩
        rw [divides.trans packed]
        obtain rfl | ⟨mantissa, exponent, above, rfl⟩ := signed
        · exact le_rfl
        · rw [unpackedValue_positive]
          exact mul_nonneg mantissa.cast_nonneg (two_zpow_pos exponent).le
      · right
        obtain other | ⟨_, _, _, same⟩ := signed
        · cases other
        · cases same
          exact divides.trans packed

end TensorEngine

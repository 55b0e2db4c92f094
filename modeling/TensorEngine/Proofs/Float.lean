import Mathlib
import TensorEngine.Matrix

/-! Arithmetic of floats. A float is unpacked into its class, sign, mantissa and
exponent, computed with and packed again; what is said here of zeros, ones and numbers
without a finite value is said of the unpacked numbers first. -/

set_option autoImplicit false

namespace TensorEngine

open Float.Model (UnpackedFloat Format totalExponent)
open Float.Model.UnpackedFloat

/-! The format of a float and the mantissas it holds. -/

theorem exponentBias_binary32 : Format.binary32.exponentBias = 127 := by decide

theorem targetExponent_binary32 (total : Int) :
    Format.binary32.targetExponent total = max (total - 24) (-149) := by
  unfold Format.targetExponent
  rfl

-- The mantissa of a normal number, with the bit that is not stored.
theorem toNat_implicit (fraction : BitVec 23) :
    (1#1 ++ fraction).toNat = 2 ^ 23 + fraction.toNat := by
  rw [BitVec.toNat_append, ← Nat.shiftLeft_add_eq_or_of_lt fraction.isLt]
  simp [Nat.shiftLeft_eq]

/-- A finite float has a mantissa of 24 bits, or less if its exponent is the least one. -/
theorem unpack_canonical {b : BitVec Format.binary32.numBits} {sign : Sign} {mantissa : Nat}
    {exponent : Int} {positive : 0 < mantissa}
    (unpacked : unpack Format.binary32 b = .finite sign mantissa exponent positive) :
    mantissa < 2 ^ 24 ∧ -149 ≤ exponent ∧ (2 ^ 23 ≤ mantissa ∨ exponent = -149) := by
  have small : (unpackMantissa b).toNat < 2 ^ 23 := (unpackMantissa b).isLt
  unfold unpack at unpacked
  dsimp only at unpacked
  by_cases special : unpackExponent b = -1#8
  · rw [if_pos special] at unpacked
    by_cases infinite : unpackMantissa b = 0#23
    · rw [if_pos infinite] at unpacked
      cases unpacked
    · rw [if_neg infinite] at unpacked
      cases unpacked
  · rw [if_neg special] at unpacked
    by_cases least : unpackExponent b = 0#8
    · rw [if_pos least] at unpacked
      by_cases zero : unpackMantissa b = 0#23
      · rw [dif_pos zero] at unpacked
        cases unpacked
      · rw [dif_neg zero] at unpacked
        injection unpacked with _ ofMantissa ofExponent
        have lowest : (unpackExponent b).toNat = 0 := congrArg BitVec.toNat least
        rw [lowest, exponentBias_binary32] at ofExponent
        omega
    · rw [if_neg least] at unpacked
      injection unpacked with _ ofMantissa ofExponent
      have above : (unpackExponent b).toNat ≠ 0 := fun none => least (BitVec.eq_of_toNat_eq none)
      rw [exponentBias_binary32] at ofExponent
      rw [toNat_implicit] at ofMantissa
      omega

/-! Rounding what needs none. -/

theorem shiftRight_exact (mantissa places : Nat) :
    (ExtendedMantissa.mk (mantissa * 2 ^ places) false false) >>> places =
      ⟨mantissa, false, false⟩ := by
  induction places generalizing mantissa with
  | zero => rw [Nat.pow_zero, Nat.mul_one]; rfl
  | succ places ih =>
    change ExtendedMantissa.shiftRightOne
      ((ExtendedMantissa.mk (mantissa * 2 ^ (places + 1)) false false) >>> places) = _
    have regroup : mantissa * 2 ^ (places + 1) = (mantissa * 2) * 2 ^ places := by
      rw [Nat.pow_succ, Nat.mul_assoc, Nat.mul_comm 2]
    rw [regroup, ih]
    simp [ExtendedMantissa.shiftRightOne]

theorem log2_mul_two_pow {mantissa : Nat} (positive : 0 < mantissa) (places : Nat) :
    (mantissa * 2 ^ places).log2 = mantissa.log2 + places := by
  obtain ⟨lower, upper⟩ := (Nat.log2_eq_iff (by omega)).mp (rfl : mantissa.log2 = mantissa.log2)
  have nonzero : mantissa * 2 ^ places ≠ 0 :=
    Nat.pos_iff_ne_zero.mp (Nat.mul_pos positive (Nat.two_pow_pos places))
  rw [Nat.log2_eq_iff nonzero, Nat.pow_add, ← Nat.add_right_comm, Nat.pow_add]
  exact ⟨Nat.mul_le_mul_right _ lower, Nat.mul_lt_mul_of_pos_right upper (Nat.two_pow_pos places)⟩

theorem target_canonical {mantissa : Nat} {exponent : Int} (positive : 0 < mantissa)
    (canonical : mantissa < 2 ^ 24 ∧ -149 ≤ exponent ∧ (2 ^ 23 ≤ mantissa ∨ exponent = -149))
    (places : Nat) :
    Format.binary32.targetExponent (totalExponent (mantissa * 2 ^ places) (exponent - places)) =
      exponent := by
  obtain ⟨above, least, normal⟩ := canonical
  have shifted := log2_mul_two_pow positive places
  have short : mantissa.log2 < 24 := (Nat.log2_lt (by omega)).mpr above
  rw [targetExponent_binary32, totalExponent, shifted]
  rcases normal with long | same
  · have long : 23 ≤ mantissa.log2 := (Nat.le_log2 (by omega)).mpr long
    omega
  · omega

/-- A number that is a float already is rounded to itself, however it is written. -/
theorem round_canonical {mantissa : Nat} {exponent : Int} (positive : 0 < mantissa)
    (canonical : mantissa < 2 ^ 24 ∧ -149 ≤ exponent ∧ (2 ^ 23 ≤ mantissa ∨ exponent = -149))
    (sign : Sign) (places : Nat) :
    roundWithAccuracy Format.binary32 sign (mantissa * 2 ^ places) (exponent - places) .exact =
      .finite sign mantissa exponent positive := by
  have once : shiftToTargetExponent Format.binary32 (mantissa * 2 ^ places)
      (exponent - places) .exact = (⟨mantissa, false, false⟩, exponent) := by
    unfold shiftToTargetExponent shiftToExponent
    dsimp only
    rw [target_canonical positive canonical]
    have amount : (exponent - (exponent - places)).toNat = places := by omega
    have back : exponent - places + places = exponent := by omega
    rw [amount, back]
    exact congrArg (·, exponent) (shiftRight_exact mantissa places)
  have again : shiftToTargetExponent Format.binary32 mantissa exponent .exact =
      (⟨mantissa, false, false⟩, exponent) := by
    have target := target_canonical positive canonical 0
    rw [Nat.pow_zero, Nat.mul_one, Int.ofNat_zero, Int.sub_zero] at target
    unfold shiftToTargetExponent shiftToExponent
    dsimp only
    rw [target, Int.sub_self]
    exact congrArg ((_ : ExtendedMantissa), ·) (Int.add_zero exponent)
  have rounded : (ExtendedMantissa.mk mantissa false false).roundedMantissa = mantissa := rfl
  unfold roundWithAccuracy
  rw [once]
  dsimp only
  rw [rounded, again]
  exact dif_neg (Nat.pos_iff_ne_zero.mp positive)

/-! Floats. -/

variable {a b c d : Float32}

theorem repack (a : Float32) : Float32.ofModel (.pack a.toModel.unpack) = a := by
  obtain ⟨⟨bits, valid⟩⟩ := a
  have ofBits : ∀ {other : UInt32} (otherValid : Format.binary32.Valid other.toBitVec),
      other = bits → Float32.ofModel ⟨other, otherValid⟩ = Float32.ofModel ⟨bits, valid⟩ := by
    rintro _ _ rfl
    rfl
  exact ofBits _ (congrArg UInt32.ofBitVec (pack_unpack_of_valid valid))

theorem toModel_add (a b : Float32) :
    (a + b).toModel = .pack (UnpackedFloat.add Format.binary32 a.toModel.unpack b.toModel.unpack) :=
  rfl

theorem toModel_mul (a b : Float32) :
    (a * b).toModel = .pack (UnpackedFloat.mul Format.binary32 a.toModel.unpack b.toModel.unpack) :=
  rfl

theorem one_mul_float (a : Float32) : 1 * a = a := by
  have one : (1 : Float32).toModel.unpack = .finite .positive (2 ^ 23) (-23) (by decide) := rfl
  have same : UnpackedFloat.mul Format.binary32
      (.finite .positive (2 ^ 23) (-23) (by decide)) a.toModel.unpack =
        a.toModel.unpack := by
    cases unpacked : a.toModel.unpack with
    | notANumber => rfl
    | infinity sign => cases sign <;> rfl
    | zero sign => cases sign <;> rfl
    | finite sign mantissa exponent positive =>
      have rounded := round_canonical positive (unpack_canonical unpacked) sign 23
      have signs : Sign.positive * sign = sign := by cases sign <;> rfl
      change roundWithAccuracy Format.binary32 (Sign.positive * sign) (2 ^ 23 * mantissa)
        (-23 + exponent) .exact = _
      rw [signs, Nat.mul_comm, Int.add_comm]
      exact rounded
  calc 1 * a = Float32.ofModel (1 * a).toModel := rfl
    _ = Float32.ofModel (.pack a.toModel.unpack) := by rw [toModel_mul, one, same]
    _ = a := repack a

/-- Zero of either sign. -/
def IsZero (a : Float32) : Prop := ∃ sign, a.toModel.unpack = .zero sign

theorem isZero_zero : IsZero 0 := ⟨.positive, rfl⟩

theorem isZero_iff : IsZero a ↔ a = 0 ∨ a = -0 := by
  constructor
  · rintro ⟨sign, unpacked⟩
    have same := repack a
    rw [unpacked] at same
    cases sign with
    | positive => exact .inl same.symm
    | negative => exact .inr same.symm
  · rintro (rfl | rfl)
    · exact isZero_zero
    · exact ⟨.negative, rfl⟩

/-- The floats that compare equal to zero are the two zeros. -/
theorem beq_zero_iff : (a == 0) = true ↔ a = 0 ∨ a = -0 := by
  have compared : (a == 0) = true ↔ a.toModel.unpack.compare (.zero .positive) = some .eq := by
    change (a.toModel.unpack.compare (0 : Float32).toModel.unpack == some .eq) = true ↔ _
    exact beq_iff_eq
  rw [compared, ← isZero_iff]
  unfold IsZero
  rcases a.toModel.unpack with (_ | _) | _ | (_ | _) | ⟨_ | _, m, e, _⟩
  all_goals simp [UnpackedFloat.compare]

theorem unpack_pack_zero (sign : Sign) : (Float32.Model.pack (.zero sign)).unpack = .zero sign := by
  cases sign <;> rfl

/-- A finite number times zero is a zero. -/
theorem isZero_mul_zero (finite : a.isFinite = true) : IsZero (a * 0) := by
  change a.toModel.unpack.isFinite = true at finite
  have product : ∃ sign,
      UnpackedFloat.mul Format.binary32 a.toModel.unpack (.zero .positive) = .zero sign := by
    cases unpacked : a.toModel.unpack with
    | notANumber => rw [unpacked] at finite; cases finite
    | infinity sign => rw [unpacked] at finite; cases finite
    | zero sign => exact ⟨_, rfl⟩
    | finite sign mantissa exponent positive => exact ⟨_, rfl⟩
  obtain ⟨sign, product⟩ := product
  refine ⟨sign, ?_⟩
  calc (a * 0).toModel.unpack
      = (Float32.Model.pack
        (UnpackedFloat.mul Format.binary32 a.toModel.unpack (.zero .positive))).unpack := rfl
    _ = .zero sign := by rw [product, unpack_pack_zero]

/-- Any other number times zero is none. -/
theorem isNaN_mul_zero (infinite : ¬ a.isFinite = true) : (a * 0).isNaN = true := by
  change ¬ a.toModel.unpack.isFinite = true at infinite
  have product : UnpackedFloat.mul Format.binary32 a.toModel.unpack (.zero .positive) =
      .notANumber := by
    cases unpacked : a.toModel.unpack with
    | notANumber => rfl
    | infinity sign => rfl
    | zero sign => exact absurd (by rw [unpacked]; rfl) infinite
    | finite sign mantissa exponent positive => exact absurd (by rw [unpacked]; rfl) infinite
  calc (a * 0).isNaN
      = (Float32.Model.pack
        (UnpackedFloat.mul Format.binary32 a.toModel.unpack (.zero .positive))).unpack.isNaN := rfl
    _ = true := by rw [product]; rfl

theorem isNaN_add (invalid : a.isNaN = true ∨ b.isNaN = true) : (a + b).isNaN = true := by
  change a.toModel.unpack.isNaN = true ∨ b.toModel.unpack.isNaN = true at invalid
  have sum : UnpackedFloat.add Format.binary32 a.toModel.unpack b.toModel.unpack = .notANumber := by
    rcases invalid with first | second
    · cases unpacked : a.toModel.unpack with
      | notANumber => rfl
      | _ => rw [unpacked] at first; cases first
    · cases unpacked : b.toModel.unpack with
      | notANumber => cases a.toModel.unpack <;> rfl
      | _ => rw [unpacked] at second; cases second
  change (a + b).toModel.unpack.isNaN = true
  rw [toModel_add, sum]
  rfl

theorem not_isFinite_of_isNaN (invalid : a.isNaN = true) : ¬ a.isFinite = true := by
  change a.toModel.unpack.isNaN = true at invalid
  change ¬ a.toModel.unpack.isFinite = true
  cases unpacked : a.toModel.unpack with
  | notANumber => exact Bool.false_ne_true
  | _ => rw [unpacked] at invalid; cases invalid

/-- Equal, but for the sign of a zero. -/
def Alike (a b : Float32) : Prop := a = b ∨ IsZero a ∧ IsZero b

theorem Alike.isFinite_eq (alike : Alike a b) : a.isFinite = b.isFinite := by
  rcases alike with rfl | ⟨⟨sign, first⟩, other, second⟩
  · rfl
  · change a.toModel.unpack.isFinite = b.toModel.unpack.isFinite
    rw [first, second]
    rfl

/-- A zero that is added on either side makes no difference but to the sign of a zero. -/
theorem alike_add_zero (zero : IsZero b) : Alike (a + b) a ∧ Alike (b + a) a := by
  obtain ⟨sign, second⟩ := zero
  by_cases other : IsZero a
  · obtain ⟨first, unpacked⟩ := other
    have sums : IsZero (a + b) ∧ IsZero (b + a) := by
      unfold IsZero
      rw [toModel_add, toModel_add, unpacked, second]
      cases first <;> cases sign <;> exact ⟨⟨_, unpack_pack_zero _⟩, ⟨_, unpack_pack_zero _⟩⟩
    exact ⟨.inr ⟨sums.1, first, unpacked⟩, .inr ⟨sums.2, first, unpacked⟩⟩
  · have sums : UnpackedFloat.add Format.binary32 a.toModel.unpack (.zero sign) = a.toModel.unpack ∧
        UnpackedFloat.add Format.binary32 (.zero sign) a.toModel.unpack = a.toModel.unpack := by
      cases unpacked : a.toModel.unpack with
      | zero first => exact absurd ⟨first, unpacked⟩ other
      | _ => exact ⟨rfl, rfl⟩
    have same : a + b = a ∧ b + a = a := by
      constructor
      · calc a + b = Float32.ofModel (a + b).toModel := rfl
          _ = a := by rw [toModel_add, second, sums.1, repack]
      · calc b + a = Float32.ofModel (b + a).toModel := rfl
          _ = a := by rw [toModel_add, second, sums.2, repack]
    exact ⟨.inl same.1, .inl same.2⟩

theorem Alike.trans (first : Alike a b) (second : Alike b c) : Alike a c := by
  rcases first with rfl | ⟨zeroA, zeroB⟩
  · exact second
  · rcases second with rfl | ⟨_, zeroC⟩
    · exact .inr ⟨zeroA, zeroB⟩
    · exact .inr ⟨zeroA, zeroC⟩

theorem Alike.symm (alike : Alike a b) : Alike b a := by
  rcases alike with rfl | ⟨zeroA, zeroB⟩
  · exact .inl rfl
  · exact .inr ⟨zeroB, zeroA⟩

theorem Alike.add (first : Alike a b) (second : Alike c d) : Alike (a + c) (b + d) := by
  rcases first with rfl | ⟨zeroA, zeroB⟩
  · rcases second with rfl | ⟨zeroC, zeroD⟩
    · exact .inl rfl
    · exact (alike_add_zero zeroC).1.trans (alike_add_zero zeroD).1.symm
  · exact (alike_add_zero zeroA).2.trans (second.trans (alike_add_zero zeroB).2.symm)

end TensorEngine

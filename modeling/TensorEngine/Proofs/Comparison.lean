import Mathlib.Data.Prod.Lex

/-! Comparison of scalars, not all of which are numbers. Floats compare by rank, and a
float without a rank compares with nothing, not even with itself. -/

set_option autoImplicit false

namespace TensorEngine

/-- The laws of comparison that NaN does not break. -/
class LawfulComparison (α : Type) [LT α] [BEq α] : Prop where
  not_lt_self (a : α) : ¬ a < a
  lt_trans {a b c : α} : a < b → b < c → a < c
  lt_of_lt_of_beq {a b c : α} : a < b → (c == b) = true → a < c
  beq_self_of_lt {a b : α} : a < b → (b == b) = true
  beq_self_of_beq {a b : α} : (a == b) = true → (b == b) = true

open Float.Model (UnpackedFloat)

/-- Place of a float among the floats, by class, exponent and mantissa. Both zeros have the
same one, and NaN has none. -/
def floatRank : UnpackedFloat → Option (ℤ ×ₗ ℤ ×ₗ ℤ)
  | .notANumber => none
  | .infinity .negative => some (toLex (-2, toLex (0, 0)))
  | .finite .negative mantissa exponent _ => some (toLex (-1, toLex (-exponent, -mantissa)))
  | .zero _ => some (toLex (0, toLex (0, 0)))
  | .finite .positive mantissa exponent _ => some (toLex (1, toLex (exponent, mantissa)))
  | .infinity .positive => some (toLex (2, toLex (0, 0)))

theorem compare_toLex {β γ : Type} [LinearOrder β] [LinearOrder γ] (a c : β) (b d : γ) :
    compare (toLex (a, b)) (toLex (c, d)) = (compare a c).then (compare b d) := rfl

theorem compare_neg_int (a b : ℤ) : compare (-a) (-b) = (compare a b).swap := by
  rcases lt_trichotomy a b with less | rfl | greater
  · rw [compare_lt_iff_lt.mpr less, compare_gt_iff_gt.mpr (Int.neg_lt_neg less)]
    rfl
  · rw [compare_eq_iff_eq.mpr rfl, compare_eq_iff_eq.mpr rfl]
    rfl
  · rw [compare_gt_iff_gt.mpr greater, compare_lt_iff_lt.mpr (Int.neg_lt_neg greater)]
    rfl

theorem compare_natCast_int (m n : ℕ) : compare (m : ℤ) (n : ℤ) = compare m n := by
  rcases lt_trichotomy m n with less | rfl | greater
  · rw [compare_lt_iff_lt.mpr less, compare_lt_iff_lt.mpr (Int.ofNat_lt.mpr less)]
  · rw [compare_eq_iff_eq.mpr rfl, compare_eq_iff_eq.mpr rfl]
  · rw [compare_gt_iff_gt.mpr greater, compare_gt_iff_gt.mpr (Int.ofNat_lt.mpr greater)]

theorem compare_eq_floatRank (a b : UnpackedFloat) :
    a.compare b = (floatRank a).bind fun r => (floatRank b).map (compare r) := by
  rcases a with (_ | _) | _ | _ | ⟨_ | _, m, e, _⟩ <;>
    rcases b with (_ | _) | _ | _ | ⟨_ | _, n, f, _⟩
  case finite.negative.finite.negative =>
    change some ((compare e f).then (compare m n)).swap =
      some (compare (toLex (-1, toLex (-e, -(m : ℤ)))) (toLex ((-1 : ℤ), toLex (-f, -(n : ℤ)))))
    simp [compare_toLex, compare_neg_int, compare_natCast_int, Ordering.swap_then]
  case finite.positive.finite.positive =>
    change some ((compare e f).then (compare m n)) =
      some (compare (toLex (1, toLex (e, (m : ℤ)))) (toLex ((1 : ℤ), toLex (f, (n : ℤ)))))
    simp [compare_toLex, compare_natCast_int]
  -- Floats of different classes are told apart by the class alone.
  all_goals rfl

def float32Rank (a : Float32) : Option (ℤ ×ₗ ℤ ×ₗ ℤ) := floatRank a.toModel.unpack

theorem float32_lt_iff {a b : Float32} :
    a < b ↔ ∃ r ∈ float32Rank a, ∃ s ∈ float32Rank b, r < s := by
  have compared : a < b ↔ a.toModel.unpack.compare b.toModel.unpack = some .lt := by
    change decide (a.toModel.unpack.lt b.toModel.unpack = true) = true ↔ _
    rw [decide_eq_true_iff]
    exact beq_iff_eq
  rw [compared, compare_eq_floatRank]
  simp [float32Rank, Option.bind_eq_some_iff, compare_lt_iff_lt]

theorem float32_beq_iff {a b : Float32} :
    (a == b) = true ↔ ∃ r ∈ float32Rank a, r ∈ float32Rank b := by
  have compared : (a == b) = true ↔ a.toModel.unpack.compare b.toModel.unpack = some .eq := by
    change (a.toModel.unpack.compare b.toModel.unpack == some .eq) = true ↔ _
    exact beq_iff_eq
  rw [compared, compare_eq_floatRank]
  simp [float32Rank, Option.bind_eq_some_iff, compare_eq_iff_eq]

theorem float32_le_iff {a b : Float32} :
    a ≤ b ↔ ∃ r ∈ float32Rank a, ∃ s ∈ float32Rank b, r ≤ s := by
  have compared : a ≤ b ↔ (a.toModel.unpack.compare b.toModel.unpack).any (·.isLE) = true := by
    change decide (a.toModel.unpack.le b.toModel.unpack = true) = true ↔ _
    rw [decide_eq_true_iff]
    rfl
  rw [compared, compare_eq_floatRank]
  cases first : floatRank a.toModel.unpack <;> cases second : floatRank b.toModel.unpack <;>
    simp [float32Rank, first, second, Ordering.isLE_iff_ne_gt, compare_gt_iff_gt]

-- Numbers, infinities among them, have a rank and so compare with one another.
theorem exists_float32Rank {a : Float32} (number : a.isNaN = false) :
    ∃ r, float32Rank a = some r := by
  change a.toModel.unpack.isNaN = false at number
  unfold float32Rank
  generalize a.toModel.unpack = value at number ⊢
  rcases value with (_ | _) | _ | _ | ⟨_ | _, m, e, _⟩
  case notANumber => cases number
  all_goals exact ⟨_, rfl⟩

theorem float32_beq_self_iff {a : Float32} : (a == a) = true ↔ a.isNaN = false := by
  refine ⟨fun same => ?_, fun number => ?_⟩
  · obtain ⟨r, rank, -⟩ := float32_beq_iff.mp same
    cases nan : a.isNaN with
    | false => rfl
    | true =>
      change a.toModel.unpack.isNaN = true at nan
      unfold float32Rank at rank
      generalize a.toModel.unpack = value at rank nan
      cases value with
      | notANumber => cases rank
      | _ => cases nan
  · obtain ⟨r, rank⟩ := exists_float32Rank number
    exact float32_beq_iff.mpr ⟨r, rank, rank⟩

theorem float32_le_of_not_lt {a b : Float32} (number : a.isNaN = false)
    (otherNumber : b.isNaN = false) (notLess : ¬ a < b) : b ≤ a := by
  obtain ⟨r, ofA⟩ := exists_float32Rank number
  obtain ⟨s, ofB⟩ := exists_float32Rank otherNumber
  exact float32_le_iff.mpr
    ⟨s, ofB, r, ofA, not_lt.mp fun less => notLess (float32_lt_iff.mpr ⟨r, ofA, s, ofB, less⟩)⟩

theorem float32_le_trans {a b c : Float32} (first : a ≤ b) (second : b ≤ c) : a ≤ c := by
  obtain ⟨r, ofA, s, ofB, below⟩ := float32_le_iff.mp first
  obtain ⟨t, same, u, ofC, next⟩ := float32_le_iff.mp second
  obtain rfl := Option.mem_unique ofB same
  exact float32_le_iff.mpr ⟨r, ofA, u, ofC, below.trans next⟩

theorem float32_beq_of_le {a b : Float32} (first : a ≤ b) (second : b ≤ a) : (a == b) = true := by
  obtain ⟨r, ofA, s, ofB, below⟩ := float32_le_iff.mp first
  obtain ⟨t, same, u, also, above⟩ := float32_le_iff.mp second
  obtain rfl := Option.mem_unique ofB same
  obtain rfl := Option.mem_unique ofA also
  obtain rfl := le_antisymm below above
  exact float32_beq_iff.mpr ⟨r, ofA, ofB⟩

instance : LawfulComparison Float32 where
  not_lt_self a less := by
    obtain ⟨r, held, s, same, below⟩ := float32_lt_iff.mp less
    obtain rfl := Option.mem_unique held same
    exact lt_irrefl r below
  lt_trans first second := by
    obtain ⟨r, ofA, s, ofB, below⟩ := float32_lt_iff.mp first
    obtain ⟨t, same, u, ofC, next⟩ := float32_lt_iff.mp second
    obtain rfl := Option.mem_unique ofB same
    exact float32_lt_iff.mpr ⟨r, ofA, u, ofC, below.trans next⟩
  lt_of_lt_of_beq less same := by
    obtain ⟨r, ofA, s, ofB, below⟩ := float32_lt_iff.mp less
    obtain ⟨t, ofC, also⟩ := float32_beq_iff.mp same
    obtain rfl := Option.mem_unique ofB also
    exact float32_lt_iff.mpr ⟨r, ofA, s, ofC, below⟩
  beq_self_of_lt less := by
    obtain ⟨-, -, s, ofB, -⟩ := float32_lt_iff.mp less
    exact float32_beq_iff.mpr ⟨s, ofB, ofB⟩
  beq_self_of_beq same := by
    obtain ⟨r, -, ofB⟩ := float32_beq_iff.mp same
    exact float32_beq_iff.mpr ⟨r, ofB, ofB⟩

end TensorEngine

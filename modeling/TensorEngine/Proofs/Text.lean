import Mathlib.Data.List.DropRight
import TensorEngine.Text.Blank
import TensorEngine.Text.Numeral

/-! What is read from text: numerals, and words with white space around them. -/

set_option autoImplicit false

namespace TensorEngine.Text

/-! Trimming leaves what stands between the white space. -/

/-- A text is a core with nothing but white space around it. -/
def Surrounds (text : String) (core : List Char) : Prop :=
  ∃ before after, (∀ c ∈ before, isBlank c) ∧ (∀ c ∈ after, isBlank c) ∧
    text.toList = before ++ core ++ after

def Solid (core : List Char) : Prop := ∀ c ∈ core, isBlank c = false

instance (core : List Char) : Decidable (Solid core) :=
  decidable_of_iff (core.all fun c => !isBlank c) (by simp [Solid])

theorem Solid.dropWhile {core : List Char} (solid : Solid core) : core.dropWhile isBlank = core :=
  List.dropWhile_eq_self_iff.mpr fun _ => by simp [solid _ (List.getElem_mem _)]

theorem Solid.reverse {core : List Char} (solid : Solid core) : Solid core.reverse :=
  fun c member => solid c (List.mem_reverse.mp member)

theorem surrounds_trimChars (text : String) : Surrounds text (trimChars text.toList) := by
  let rest := text.toList.dropWhile isBlank
  refine ⟨text.toList.takeWhile isBlank, rest.rtakeWhile isBlank, fun c => List.mem_takeWhile_imp,
    fun c => List.mem_rtakeWhile_imp, ?_⟩
  calc text.toList
    _ = text.toList.takeWhile isBlank ++ rest := List.takeWhile_append_dropWhile.symm
    _ = text.toList.takeWhile isBlank ++ (rest.rdropWhile isBlank ++ rest.rtakeWhile isBlank) := by
      rw [List.rdropWhile_append_rtakeWhile]
    _ = _ := (List.append_assoc ..).symm

theorem trimChars_of_surrounds {text : String} {core : List Char} (solid : Solid core)
    (surrounds : Surrounds text core) :
    trimChars text.toList = core := by
  obtain ⟨before, after, blankBefore, blankAfter, split⟩ := surrounds
  unfold trimChars
  rw [split, List.append_assoc, List.dropWhile_append_of_pos blankBefore]
  cases core with
  | nil => simp [List.dropWhile_eq_nil_iff.mpr blankAfter]
  | cons c rest =>
    have starts : isBlank c = false := solid c List.mem_cons_self
    have blankEnd : ∀ c ∈ after.reverse, isBlank c := fun c member =>
      blankAfter c (List.mem_reverse.mp member)
    rw [List.cons_append, List.dropWhile_cons_of_neg (by simp [starts]), ← List.cons_append,
      List.reverse_append, List.dropWhile_append_of_pos blankEnd, solid.reverse.dropWhile,
      List.reverse_reverse]

theorem trimChars_eq_iff {text : String} {core : List Char} (solid : Solid core) :
    trimChars text.toList = core ↔ Surrounds text core :=
  ⟨fun trimmed => trimmed ▸ surrounds_trimChars text, trimChars_of_surrounds solid⟩

theorem trim_eq_iff {text word : String} (solid : Solid word.toList) :
    trim text = word ↔ Surrounds text word.toList := by
  rw [← trimChars_eq_iff solid]
  unfold trim
  rw [← String.toList_inj, String.toList_ofList]

/-! Numerals. -/

/-- An optional plus sign, then digits, with a value below a bound. -/
def Numeral (bound : Nat) (chars : List Char) (value : Nat) : Prop :=
  ∃ digits, (chars = digits ∨ chars = '+' :: digits) ∧ digits ≠ [] ∧ (∀ c ∈ digits, c.isDigit) ∧
    Nat.ofDigitChars 10 digits 0 = value ∧ value < bound

variable {bound value result : Nat} {digits : List Char}

theorem le_ofDigitChars (digits : List Char) (value : Nat) :
    value ≤ Nat.ofDigitChars 10 digits value := by
  induction digits generalizing value with
  | nil => exact Nat.le_refl value
  | cons c rest ih =>
    rw [Nat.ofDigitChars_cons]
    exact Nat.le_trans (by omega) (ih _)

-- Digits only raise a value, so one that has left the bound does not come back.
theorem readDigits_eq_ok_iff (start : value < bound) : readDigits bound value digits = .ok result ↔
    (∀ c ∈ digits, c.isDigit) ∧ Nat.ofDigitChars 10 digits value = result ∧ result < bound := by
  induction digits generalizing value with
  | nil =>
    suffices value = result ↔ value = result ∧ result < bound by
      simpa [readDigits, Nat.ofDigitChars]
    omega
  | cons c rest ih =>
    rw [Nat.ofDigitChars_cons, List.forall_mem_cons]
    unfold readDigits
    split
    · rename_i digit
      dsimp only
      split
      · rename_i below
        rw [ih below]
        simp [digit, digitValue]
      · rename_i above
        have beyond := le_ofDigitChars rest (10 * value + digitValue c)
        simp only [reduceCtorEq, false_iff]
        rintro ⟨-, rfl, below⟩
        exact above (Nat.lt_of_le_of_lt beyond below)
    · rename_i other
      simp [other]

theorem not_isDigit_plus : ¬ '+'.isDigit := by decide

theorem readNumeralChars_eq_ok_iff (positive : 0 < bound) {chars : List Char} :
    readNumeralChars bound chars = .ok value ↔ Numeral bound chars value := by
  unfold readNumeralChars Numeral
  split
  · simp
  · constructor
    · nofun
    · rintro ⟨digits, rfl | signed, some, all, -⟩
      · exact absurd (all '+' List.mem_cons_self) not_isDigit_plus
      · exact absurd (List.cons.inj signed).2.symm some
  · rename_i digits unsigned
    rw [readDigits_eq_ok_iff positive]
    constructor
    · rintro ⟨all, rfl, below⟩
      exact ⟨digits, .inr rfl, fun none => unsigned (none ▸ rfl), all, rfl, below⟩
    · rintro ⟨others, rfl | signed, some, all, read, below⟩
      · exact absurd (all '+' List.mem_cons_self) not_isDigit_plus
      · obtain rfl := (List.cons.inj signed).2
        exact ⟨all, read, below⟩
  · rename_i some _ unsigned
    rw [readDigits_eq_ok_iff positive]
    constructor
    · rintro ⟨all, rfl, below⟩
      exact ⟨_, .inl rfl, some, all, rfl, below⟩
    · rintro ⟨digits, rfl | signed, -, all, read, below⟩
      · exact ⟨all, read, below⟩
      · exact absurd signed (unsigned digits)

theorem isBlank_of_isDigit {c : Char} (digit : c.isDigit) : isBlank c = false := by
  obtain ⟨low, high⟩ : 48 ≤ c.toNat ∧ c.toNat ≤ 57 := Char.isDigit_iff_toNat.mp digit
  simp only [isBlank, Bool.or_eq_false_iff, Bool.and_eq_false_imp, decide_eq_true_eq,
    decide_eq_false_iff_not, beq_eq_false_iff_ne]
  omega

theorem Numeral.solid {chars : List Char} (numeral : Numeral bound chars value) : Solid chars := by
  obtain ⟨digits, rfl | rfl, -, all, -⟩ := numeral
  · exact fun c member => isBlank_of_isDigit (all c member)
  · exact List.forall_mem_cons.mpr ⟨by decide, fun c member => isBlank_of_isDigit (all c member)⟩

/-- The decimal text of a number is a numeral, with or without leading zeros. -/
theorem numeral_toString {zeros number : Nat} (below : number < bound) :
    Numeral bound (List.replicate zeros '0' ++ (toString number).toList) number := by
  rw [Nat.toString_eq_ofList_toDigits, String.toList_ofList]
  refine ⟨_, .inl rfl, fun none => Nat.toDigits_ne_nil (List.append_eq_nil_iff.mp none).2,
    fun c member => ?_, ?_, below⟩
  · rcases List.mem_append.mp member with zero | digit
    · rw [List.eq_of_mem_replicate zero]
      decide
    · exact Nat.isDigit_of_mem_toDigits (by decide) (by decide) digit
  · rw [Nat.ofDigitChars_append, Nat.ofDigitChars_replicate_zero, Nat.mul_zero,
      Nat.ofDigitChars_ten_toDigits]

/-- A text that stands for a number, whatever white space is around its numeral. -/
def Spells (bound : Nat) (text : String) (value : Nat) : Prop :=
  ∃ core, Surrounds text core ∧ Numeral bound core value

theorem readNumeral_trim_eq_ok_iff (positive : 0 < bound) {text : String} :
    readNumeral bound (trim text) = .ok value ↔ Spells bound text value := by
  unfold readNumeral trim
  rw [String.toList_ofList, readNumeralChars_eq_ok_iff positive]
  constructor
  · exact fun numeral => ⟨_, surrounds_trimChars text, numeral⟩
  · rintro ⟨core, surrounds, numeral⟩
    exact (trimChars_of_surrounds numeral.solid surrounds).symm ▸ numeral

theorem Spells.unique (positive : 0 < bound) {text : String} (one : Spells bound text value)
    (other : Spells bound text result) : value = result :=
  Except.ok.inj <| ((readNumeral_trim_eq_ok_iff positive).mpr one).symm.trans
    ((readNumeral_trim_eq_ok_iff positive).mpr other)

theorem not_spells_of_error (positive : 0 < bound) {text : String} {cause : NumeralError}
    (failed : readNumeral bound (trim text) = .error cause) (value : Nat) :
    ¬ Spells bound text value := fun spells => by
  rw [(readNumeral_trim_eq_ok_iff positive).mpr spells] at failed
  cases failed

end TensorEngine.Text

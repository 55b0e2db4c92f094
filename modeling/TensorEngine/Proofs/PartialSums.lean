import Mathlib.Algebra.BigOperators.Fin
import Mathlib.Algebra.Order.Group.Multiset
import TensorEngine.Matrix
import TensorEngine.Proofs.Float

/-! Rounded sums in whatever order and grouping they are taken. The terms do not
determine such a sum, but they do determine whether products with zero can spoil it. -/

set_option autoImplicit false

namespace TensorEngine

-- A term of a joined multiset comes from one of its sides.
theorem singleton_add_eq_add {α : Type} {x : α} {rest left right : Multiset α}
    (whole : {x} + rest = left + right) :
    (∃ others, left = {x} + others ∧ rest = others + right) ∨
      (∃ others, right = {x} + others ∧ rest = left + others) := by
  have member : x ∈ left + right := by simp [← whole]
  rcases Multiset.mem_add.mp member with inLeft | inRight
  · obtain ⟨others, rfl⟩ := Multiset.exists_cons_of_mem inLeft
    rw [← Multiset.singleton_add, add_assoc] at whole
    exact .inl ⟨others, (Multiset.singleton_add x others).symm, add_left_cancel whole⟩
  · obtain ⟨others, rfl⟩ := Multiset.exists_cons_of_mem inRight
    rw [← Multiset.singleton_add, add_left_comm] at whole
    exact .inr ⟨others, (Multiset.singleton_add x others).symm, add_left_cancel whole⟩

/-- A sum of the terms in some order and grouping, from any number of zeros. -/
inductive SumOf {α : Type} [Zero α] [Add α] : Multiset α → α → Prop
  | none : SumOf 0 0
  | one (term : α) : SumOf {term} term
  | add {left right : Multiset α} {a b : α} : SumOf left a → SumOf right b →
      SumOf (left + right) (a + b)

namespace SumOf

section

variable {α : Type} [Zero α] [Add α]

theorem foldl {count : Nat} (term : Fin count → α) :
    SumOf (∑ k, {term k}) (Fin.foldl count (fun total k => total + term k) 0) := by
  induction count with
  | zero => exact none
  | succ count ih =>
    rw [Fin.foldl_succ_last, Fin.sum_univ_castSucc]
    exact (ih fun k => term k.castSucc).add (one _)

theorem foldl_list (order : List α) {terms : Multiset α} {start : α} (sum : SumOf terms start) :
    SumOf (terms + (order : Multiset α)) (order.foldl (· + ·) start) := by
  induction order generalizing terms start with
  | nil => simpa using sum
  | cons term rest ih =>
    have next := ih (sum.add (one term))
    rw [add_assoc, Multiset.singleton_add, Multiset.cons_coe] at next
    exact next

-- A term that is a sum itself is replaced by its own terms.
theorem substitute {rest terms : Multiset α} {x a : α} (sum : SumOf ({x} + rest) a)
    (inner : SumOf terms x) :
    SumOf (terms + rest) a := by
  generalize whole : {x} + rest = all at sum
  induction sum generalizing rest with
  | none =>
    have member : x ∈ (0 : Multiset α) := by simp [← whole]
    cases Multiset.notMem_zero x member
  | one term =>
    rw [Multiset.singleton_add, eq_comm, Multiset.singleton_eq_cons_iff] at whole
    obtain ⟨rfl, rfl⟩ := whole
    rw [add_zero]
    exact inner
  | @add left right a b first second ihFirst ihSecond =>
    rcases singleton_add_eq_add whole with ⟨others, inLeft, rfl⟩ | ⟨others, inRight, rfl⟩
    · rw [← add_assoc]
      exact (ihFirst inLeft.symm).add second
    · rw [add_left_comm]
      exact first.add (ihSecond inRight.symm)

end

variable {terms : Multiset Float32} {a : Float32}

theorem isNaN (sum : SumOf terms a) {term : Float32} (member : term ∈ terms)
    (invalid : term.isNaN = true) :
    a.isNaN = true := by
  induction sum with
  | none => cases Multiset.notMem_zero term member
  | one only =>
    rw [Multiset.mem_singleton] at member
    rw [← member]
    exact invalid
  | add first second ihFirst ihSecond =>
    exact isNaN_add ((Multiset.mem_add.mp member).imp ihFirst ihSecond)

-- Sums without terms, and of one term.
theorem alike (sum : SumOf terms a) :
    (terms = 0 → Alike a 0) ∧ ∀ term, terms = {term} → Alike a term := by
  induction sum with
  | none =>
    exact ⟨fun _ => .inl rfl,
      fun term impossible => absurd impossible.symm (Multiset.singleton_ne_zero term)⟩
  | one only =>
    exact ⟨fun impossible => absurd impossible (Multiset.singleton_ne_zero only),
      fun term same => .inl (Multiset.singleton_inj.mp same)⟩
  | @add left right a b first second ihFirst ihSecond =>
    have zero : (0 : Float32) + 0 = 0 := by decide
    constructor
    · intro empty
      obtain ⟨rfl, rfl⟩ : left = 0 ∧ right = 0 := by simpa [← Multiset.card_eq_zero] using empty
      rw [← zero]
      exact (ihFirst.1 rfl).add (ihSecond.1 rfl)
    · intro term single
      rcases singleton_add_eq_add ((add_zero _).trans single.symm)
        with ⟨others, rfl, empty⟩ | ⟨others, rfl, empty⟩
      · obtain ⟨rfl, rfl⟩ : others = 0 ∧ right = 0 := by
          simpa [← Multiset.card_eq_zero] using empty.symm
        exact ((ihFirst.2 term (add_zero _)).add (ihSecond.1 rfl)).trans
          (alike_add_zero isZero_zero).1
      · obtain ⟨rfl, rfl⟩ : left = 0 ∧ others = 0 := by
          simpa [← Multiset.card_eq_zero] using empty.symm
        exact ((ihFirst.1 rfl).add (ihSecond.2 term (add_zero _))).trans
          (alike_add_zero isZero_zero).2

open Classical in
/-- Terms that are zero can be left out of a sum. -/
theorem nonzero (sum : SumOf terms a) : ∃ b, SumOf (terms.filter (¬ IsZero ·)) b ∧ Alike a b := by
  induction sum with
  | none => exact ⟨0, none, .inl rfl⟩
  | one term =>
    rw [Multiset.filter_singleton]
    by_cases zero : IsZero term
    · rw [if_neg (not_not.mpr zero)]
      exact ⟨0, none, .inr ⟨zero, isZero_zero⟩⟩
    · rw [if_pos zero]
      exact ⟨term, one term, .inl rfl⟩
  | add first second ihFirst ihSecond =>
    obtain ⟨b, firstSum, firstAlike⟩ := ihFirst
    obtain ⟨c, secondSum, secondAlike⟩ := ihSecond
    rw [Multiset.filter_add]
    exact ⟨b + c, firstSum.add secondSum, firstAlike.add secondAlike⟩

end SumOf

/-- Every part of the terms, added one after another in any order, gives a finite number. -/
def FiniteInOrders (terms : Multiset Float32) : Prop :=
  ∀ order : List Float32, (order : Multiset Float32) ≤ terms →
    (order.foldl (· + ·) 0).isFinite = true

/-- Every part of the terms, added in any order and grouping, gives a finite number. -/
def FiniteInGroupings (terms : Multiset Float32) : Prop :=
  ∀ part ≤ terms, ∀ total, SumOf part total → total.isFinite = true

theorem FiniteInGroupings.inOrders {terms : Multiset Float32} (finite : FiniteInGroupings terms) :
    FiniteInOrders terms := by
  intro order part
  have sum := SumOf.none.foldl_list order
  rw [zero_add] at sum
  exact finite _ part _ sum

theorem finiteInGroupings_singleton {term : Float32} (finite : term.isFinite = true) :
    FiniteInGroupings {term} := by
  intro part below total sum
  rcases Multiset.le_singleton.mp below with empty | single
  · rw [(sum.alike.1 empty).isFinite_eq]
    rfl
  · rw [(sum.alike.2 term single).isFinite_eq]
    exact finite

theorem FiniteInOrders.foldl {γ : Type} {items : List γ} {term : γ → Float32}
    (finite : FiniteInOrders (items.map fun item => {term item}).sum) :
    (items.foldl (fun total item => total + term item) 0).isFinite = true := by
  have terms : ∀ rest : List γ,
      (↑(rest.map term) : Multiset Float32) = (rest.map fun item => {term item}).sum := by
    intro rest
    induction rest with
    | nil => rfl
    | cons item rest ih => simp [← ih, Multiset.singleton_add]
  have folded := finite (items.map term) (terms items).le
  rw [List.foldl_map] at folded
  exact folded

/-- Products with zero leave a sum finite exactly if all their factors are finite. -/
theorem SumOf.isFinite_iff {terms factors : Multiset Float32} {a : Float32}
    (sum : SumOf (terms + factors.map (· * 0)) a) (finite : FiniteInGroupings terms) :
    a.isFinite = true ↔ ∀ factor ∈ factors, factor.isFinite = true := by
  constructor
  · intro result factor member
    by_contra infinite
    have product := Multiset.mem_map_of_mem (· * 0) member
    have invalid := sum.isNaN (Multiset.mem_add.mpr (.inr product)) (isNaN_mul_zero infinite)
    exact not_isFinite_of_isNaN invalid result
  · intro each
    classical
    obtain ⟨b, nonzero, alike⟩ := sum.nonzero
    have dropped : (factors.map (· * 0)).filter (¬ IsZero ·) = 0 := by
      rw [Multiset.filter_eq_nil]
      intro product member
      obtain ⟨factor, inFactors, rfl⟩ := Multiset.mem_map.mp member
      exact not_not.mpr (isZero_mul_zero (each factor inFactors))
    rw [Multiset.filter_add, dropped, add_zero] at nonzero
    rw [alike.isFinite_eq]
    exact finite _ (Multiset.filter_le _ _) b nonzero

/-- The host adds the products of an entry in an order and grouping of its own. -/
class MatrixProduct.Summing (α : Type) [Zero α] [One α] [Add α] [Mul α]
    [MatrixProduct α] : Prop where
  assigned {rows inner cols : Nat} (left : Entries α rows inner) (right : Entries α inner cols)
      (target : Entries α rows cols) (row : Fin rows) (col : Fin cols) :
    SumOf (∑ k, {left row k * right k col}) (multiplyAdd 1 left right 0 target row col)
  added {rows inner cols : Nat} (left : Entries α rows inner) (right : Entries α inner cols)
      (target : Entries α rows cols) (row : Fin rows) (col : Fin cols) :
    SumOf ({target row col} + ∑ k, {left row k * right k col})
      (multiplyAdd 1 left right 1 target row col)

instance : MatrixProduct.Summing Float32 where
  assigned {_ inner _} left right target row col := by
    have products := SumOf.foldl fun k => left row k * right k col
    have zero : ((0 : Float32) == 0) = true := by decide
    have blended : MatrixProduct.multiplyAdd 1 left right 0 target row col =
        1 * Fin.foldl inner (fun total k => total + left row k * right k col) 0 := by
      change Elementwise.blend 0 (target row col) 1 _ = _
      unfold Elementwise.blend
      rw [if_pos zero]
    rw [blended, one_mul_float]
    exact products
  added {_ inner _} left right target row col := by
    have products := SumOf.foldl fun k => left row k * right k col
    have nonzero : ¬ ((1 : Float32) == 0) = true := by decide
    have blended : MatrixProduct.multiplyAdd 1 left right 1 target row col =
        1 * target row col + 1 * Fin.foldl inner
          (fun total k => total + left row k * right k col) 0 := by
      change Elementwise.blend 1 (target row col) 1 _ = _
      unfold Elementwise.blend
      rw [if_neg nonzero]
    rw [blended, one_mul_float, one_mul_float]
    exact (SumOf.one _).add products

end TensorEngine

import Mathlib.Algebra.BigOperators.Fin
import Mathlib.Algebra.Ring.Defs
import TensorEngine.Matrix
import TensorEngine.Proofs.Storage

/-! Matrices read from storage and written back, and what is asked of the matrix
product of the host: with a beta of zero it assigns its target, and in exact arithmetic
it is the product of linear algebra. -/

set_option autoImplicit false

namespace TensorEngine

variable {α : Type}

namespace Entries

def view [Zero α] (storage : Array α) (start rows cols : Nat) : Entries α rows cols :=
  fun row col => Buffer.cell storage (start + (row.val * cols + col.val))

section

variable {storage : Array α} {rows cols : Nat}

theorem ofStorage?_eq_none (short : ¬ rows * cols ≤ storage.size) :
    ofStorage? storage rows cols = none :=
  dif_neg short

variable [Zero α]

theorem ofStorage?_eq_some (fits : rows * cols ≤ storage.size) :
    ofStorage? storage rows cols = some (view storage 0 rows cols) := by
  unfold ofStorage?
  rw [dif_pos fits]
  congr 1
  funext row col
  have inside := Nat.lt_of_lt_of_le (place_lt row.isLt col.isLt) fits
  simp [view, Buffer.cell, inside]

theorem getElem?_eq_view (fits : rows * cols ≤ storage.size) (row : Fin rows) (col : Fin cols) :
    storage[row.val * cols + col.val]? = some (view storage 0 rows cols row col) := by
  unfold view
  rw [Nat.zero_add]
  exact Buffer.getElem?_eq_cell (Nat.lt_of_lt_of_le (place_lt row.isLt col.isLt) fits)

theorem ofStorage?_slice {start stop : Nat} (length : stop = start + rows * cols)
    (fits : stop ≤ storage.size) :
    (Buffer.slice storage start stop).bind (ofStorage? · rows cols) =
      some (view storage start rows cols) := by
  subst length
  rw [Buffer.slice_eq_some fits, Option.bind_some, Nat.add_sub_cancel_left,
    ofStorage?_eq_some (by simp)]
  congr 1
  funext row col
  unfold view
  rw [Nat.zero_add, Buffer.cell_cells _ (place_lt row.isLt col.isLt)]

end

variable {rows cols : Nat}

@[simp] theorem size_toStorage (entries : Entries α rows cols) :
    entries.toStorage.size = rows * cols := by
  simp [toStorage]

theorem toStorage_eq_cells {entries : Entries α rows cols} (value : Nat → Nat → α)
    (same : ∀ row col, entries row col = value row col) :
    entries.toStorage = Buffer.cells (rows * cols) fun flat =>
      value (flat / cols) (flat % cols) := by
  apply Buffer.eq_cells
  · simp [toStorage]
  · intro flat inside
    simp [toStorage, inside, same]

theorem cell_toStorage [Zero α] (entries : Entries α rows cols) {flat : Nat}
    (inside : flat < rows * cols) :
    ∃ (row : Fin rows) (col : Fin cols), row.val = flat / cols ∧ col.val = flat % cols ∧
      Buffer.cell entries.toStorage flat = entries row col := by
  have wide : 0 < cols := Nat.pos_of_lt_mul_left inside
  refine ⟨⟨flat / cols, Nat.div_lt_of_lt_mul (Nat.mul_comm rows cols ▸ inside)⟩,
    ⟨flat % cols, Nat.mod_lt _ wide⟩, rfl, rfl, ?_⟩
  simp [Buffer.cell, toStorage, inside]

theorem view_overwrite_toStorage [Zero α] {target : Array α} (fits : rows * cols ≤ target.size)
    (entries : Entries α rows cols) :
    view (Buffer.overwrite target 0 entries.toStorage) 0 rows cols = entries := by
  funext row col
  have inside := place_lt row.isLt col.isLt
  have found :=
    Buffer.getElem?_overwrite target 0 entries.toStorage _ (Nat.lt_of_lt_of_le inside fits)
  unfold view Buffer.cell
  rw [Array.getD_eq_getD_getElem?, Nat.zero_add, found]
  simp [toStorage, inside, place_div, Nat.mod_eq_of_lt]

end Entries

/-- With a beta of zero the host does not read its target. -/
class MatrixProduct.Assigning (α : Type) [Zero α] [MatrixProduct α] : Prop where
  multiplyAdd_zero {rows inner cols : Nat} (alpha : α) (left : Entries α rows inner)
    (right : Entries α inner cols)
      (target other : Entries α rows cols) :
    multiplyAdd alpha left right 0 target = multiplyAdd alpha left right 0 other

-- It is enough that zero compares equal to itself, as it does among rounded numbers.
theorem MatrixProduct.assigning_inOrder [Zero α] [Add α] [Mul α] [BEq α]
    (zero : ((0 : α) == 0) = true) :
    @MatrixProduct.Assigning α _ .inOrder := by
  refine @Assigning.mk α _ .inOrder ?_
  intro rows inner cols alpha left right target other
  funext row col
  change Elementwise.blend 0 (target row col) alpha _ = Elementwise.blend 0 (other row col) alpha _
  unfold Elementwise.blend
  rw [if_pos zero, if_pos zero]

instance : MatrixProduct.Assigning Float32 := MatrixProduct.assigning_inOrder (by decide)

/-- In exact arithmetic the host computes alpha * left * right + beta * target. -/
class MatrixProduct.Exact (α : Type) [CommSemiring α] [MatrixProduct α] : Prop where
  multiplyAdd_eq {rows inner cols : Nat} (alpha : α) (left : Entries α rows inner)
    (right : Entries α inner cols)
      (beta : α) (target : Entries α rows cols) (row : Fin rows) (col : Fin cols) :
    multiplyAdd alpha left right beta target row col =
      alpha * ∑ k, left row k * right k col + beta * target row col

theorem foldl_add_eq_sum_univ [AddCommMonoid α] {count : Nat} (term : Fin count → α) :
    Fin.foldl count (fun total k => total + term k) 0 = ∑ k, term k := by
  induction count with
  | zero => simp
  | succ count ih => rw [Fin.foldl_succ_last, ih fun k => term k.castSucc, Fin.sum_univ_castSucc]

-- Adding the terms of an entry one after another is exact.
theorem MatrixProduct.exact_inOrder [CommSemiring α] [BEq α] [LawfulBEq α] :
    @MatrixProduct.Exact α _ .inOrder := by
  refine @Exact.mk α _ .inOrder ?_
  intro rows inner cols alpha left right beta target row col
  change Elementwise.blend beta (target row col) alpha
    (Fin.foldl inner (fun total k => total + left row k * right k col) 0) = _
  rw [foldl_add_eq_sum_univ fun k => left row k * right k col]
  unfold Elementwise.blend
  by_cases none : beta = 0
  · simp [none]
  · simp [none, add_comm]

instance : MatrixProduct Int := .inOrder

instance : MatrixProduct.Assigning Int := MatrixProduct.assigning_inOrder (by decide)

instance : MatrixProduct.Exact Int := MatrixProduct.exact_inOrder

end TensorEngine

import TensorEngine.Elementwise

/-! Matrices over flat storage, row by row. Their product is taken from the linear
algebra of the host, which is free to add the terms of an entry in any order. -/

set_option autoImplicit false

namespace TensorEngine

abbrev Entries (α : Type) (rows cols : Nat) := Fin rows → Fin cols → α

namespace Entries

variable {α : Type} {rows cols : Nat}

def transpose (entries : Entries α rows cols) : Entries α cols rows :=
  fun row col => entries col row

-- Storage seen as a matrix, if it has enough elements; the rest is left out.
def ofStorage? (storage : Array α) (rows cols : Nat) : Option (Entries α rows cols) :=
  if fits : rows * cols ≤ storage.size then
    some fun row col =>
      have inside := Nat.lt_of_lt_of_le (place_lt row.isLt col.isLt) fits
      storage[row.val * cols + col.val]
  else none

def toStorage (entries : Entries α rows cols) : Array α :=
  Array.ofFn fun flat : Fin (rows * cols) =>
    have wide : 0 < cols := Nat.pos_of_lt_mul_left flat.isLt
    entries ⟨flat.val / cols, Nat.div_lt_of_lt_mul (Nat.mul_comm rows cols ▸ flat.isLt)⟩
      ⟨flat.val % cols, Nat.mod_lt _ wide⟩

end Entries

/-- The matrix product of the host. -/
class MatrixProduct (α : Type) where
  /-- Entries of alpha * left * right + beta * target. -/
  multiplyAdd {rows inner cols : Nat} (alpha : α) (left : Entries α rows inner)
    (right : Entries α inner cols) (beta : α) (target : Entries α rows cols) : Entries α rows cols

/-- Adds the terms of an entry in the order of the inner index. -/
abbrev MatrixProduct.inOrder {α : Type} [Zero α] [Add α] [Mul α] [BEq α] : MatrixProduct α where
  multiplyAdd {_ inner _} alpha left right beta target row col :=
    let product := Fin.foldl inner (fun total k => total + left row k * right k col) 0
    Elementwise.blend beta (target row col) alpha product

instance : MatrixProduct Float32 := .inOrder

end TensorEngine

import TensorEngine.Buffer
import TensorEngine.Proofs.Layout

/-! Flat storage seen under extents. A view lists the elements of its storage with the last
coordinate running fastest, whatever its rank is; this fixes where each element lies. For
row-major layouts it is where their offsets say. -/

set_option autoImplicit false

namespace TensorEngine

-- Row by row and column by column, a matrix is run through from its first cell to its last.
theorem flatMap_range_map {γ : Type} (rows cols : Nat) (visit : Nat → γ) :
    ((List.range rows).flatMap fun row => (List.range cols).map fun col =>
      visit (row * cols + col)) = (List.range (rows * cols)).map visit := by
  induction rows with
  | zero => simp
  | succ rows ih =>
    rw [List.range_succ, List.flatMap_append, ih, Nat.succ_mul, List.range_add, List.map_append]
    simp [Function.comp_def]

namespace Extents

/-- All coordinates in range, the last one running fastest. -/
def inOrder : List Nat → List (List Nat)
  | [] => [[]]
  | extent :: inner => (List.range extent).flatMap fun first => (inOrder inner).map (first :: ·)

/-- How many coordinates come before these in that order. -/
def place : List Nat → List Nat → Nat
  | _ :: inner, first :: rest => first * inner.prod + place inner rest
  | _, _ => 0

/-- The coordinates that so many come before. -/
def coordsAt : List Nat → Nat → List Nat
  | [], _ => []
  | _ :: inner, flat => flat / inner.prod :: coordsAt inner (flat % inner.prod)

theorem place_lt_prod {coords extents : List Nat} (within : List.Forall₂ (· < ·) coords extents) :
    place extents coords < extents.prod := by
  induction within with
  | nil => exact Nat.one_pos
  | cons first _ ih =>
    rw [List.prod_cons]
    exact place_lt first ih

theorem coordsAt_place {coords extents : List Nat} (within : List.Forall₂ (· < ·) coords extents) :
    coordsAt extents (place extents coords) = coords := by
  induction within with
  | nil => rfl
  | cons _ rest ih =>
    unfold place coordsAt
    rw [place_div (place_lt_prod rest), place_mod (place_lt_prod rest), ih]

theorem place_coordsAt {extents : List Nat} {flat : Nat} (inside : flat < extents.prod) :
    place extents (coordsAt extents flat) = flat := by
  induction extents generalizing flat with
  | nil => exact (Nat.lt_one_iff.mp inside).symm
  | cons extent inner ih =>
    have positive : 0 < inner.prod := Nat.pos_of_lt_mul_left inside
    unfold coordsAt place
    rw [ih (Nat.mod_lt _ positive), Nat.div_add_mod']

theorem inOrder_eq (extents : List Nat) :
    inOrder extents = (List.range extents.prod).map (coordsAt extents) := by
  induction extents with
  | nil => rfl
  | cons extent inner ih =>
    unfold inOrder
    rw [ih, List.prod_cons, ← flatMap_range_map]
    refine List.flatMap_congr fun first _ => ?_
    rw [List.map_map]
    refine List.map_congr_left fun rest inRest => ?_
    unfold coordsAt
    rw [place_div (List.mem_range.mp inRest), place_mod (List.mem_range.mp inRest)]
    rfl

end Extents

variable {α : Type}

/-- What an array library answers for storage seen under extents: elements at coordinates,
which in their order are the elements of the storage. -/
structure View (storage : Array α) (extents : List Nat) where
  element : List Nat → Option α
  listed : (Extents.inOrder extents).map element = storage.toList.map some

namespace View

variable {storage : Array α} {extents : List Nat}

theorem size_eq (view : View storage extents) : storage.size = extents.prod := by
  have lengths := congrArg List.length view.listed
  rw [Extents.inOrder_eq] at lengths
  simpa using lengths.symm

theorem element_eq (view : View storage extents) {coords : List Nat}
    (within : List.Forall₂ (· < ·) coords extents) :
    view.element coords = storage[Extents.place extents coords]? := by
  have inside := Extents.place_lt_prod within
  have found := congrArg (·[Extents.place extents coords]?) view.listed
  rw [Extents.inOrder_eq] at found
  simpa [inside, Extents.coordsAt_place within, view.size_eq] using found

-- Of a matrix, row by row.
theorem element_matrix {rows cols : Nat} (view : View storage [rows, cols]) (row : Fin rows)
    (col : Fin cols) :
    view.element [row.val, col.val] = storage[row.val * cols + col.val]? := by
  have within : List.Forall₂ (· < ·) [row.val, col.val] [rows, cols] :=
    .cons row.isLt (.cons col.isLt .nil)
  rw [view.element_eq within]
  simp [Extents.place]

/-- Storage can be seen under extents that have as many elements. -/
def ofSize (size : storage.size = extents.prod) : View storage extents where
  element coords := storage[Extents.place extents coords]?
  listed := by
    rw [Extents.inOrder_eq, List.map_map, ← size]
    apply List.ext_getElem?
    intro flat
    by_cases inside : flat < storage.size
    · simp [inside, Extents.place_coordsAt (size ▸ inside)]
    · simp [inside]

end View

theorem nonempty_view_iff {storage : Array α} {extents : List Nat} :
    Nonempty (View storage extents) ↔ storage.size = extents.prod :=
  ⟨fun ⟨view⟩ => view.size_eq, fun size => ⟨.ofSize size⟩⟩

/-! Views of rank four. -/

namespace Index

def toList (index : Index) : List Nat := [index.sample, index.channel, index.row, index.col]

theorem within_iff {index : Index} {shape : Shape} :
    index.Within shape ↔ List.Forall₂ (· < ·) index.toList shape.toList := by
  simp [Within, toList, Shape.toList]

end Index

theorem Shape.prod_toList (shape : Shape) : shape.toList.prod = shape.count := by
  simp [toList, count, Nat.mul_assoc]

namespace Layout

variable {layout : Layout}

theorem RowMajor.place_eq (rowMajor : layout.RowMajor) (index : Index) :
    Extents.place layout.dims.toList index.toList = layout.offset index := by
  rw [rowMajor.offset_eq]
  unfold Shape.toList Index.toList
  simp only [Extents.place, List.prod_cons, List.prod_nil]
  ring

/-- Storage is accepted under a layout exactly when it can be seen under its dimensions. -/
theorem fitsLayout_iff_view {storage : Array α} :
    Buffer.fitsLayout storage layout = .ok () ↔ Nonempty (View storage layout.dims.toList) := by
  rw [Buffer.fitsLayout_eq_ok_iff, nonempty_view_iff, Shape.prod_toList]
  rfl

/-- Every element of a view lies at the offset of its position. -/
theorem RowMajor.element_eq (rowMajor : layout.RowMajor) {storage : Array α}
    (view : View storage layout.dims.toList) {index : Index} (within : index.Within layout.dims) :
    view.element index.toList = storage[layout.offset index]? := by
  rw [view.element_eq (Index.within_iff.mp within), rowMajor.place_eq]

end Layout

end TensorEngine

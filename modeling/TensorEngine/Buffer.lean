import TensorEngine.Error
import TensorEngine.Layout

/-! Flat storage. Reads and writes at computed offsets are checked: a computation
that leaves its storage has no result. -/

set_option autoImplicit false

namespace TensorEngine.Buffer

variable {α : Type}

def zeros [Zero α] (count : Nat) : Array α := Array.replicate count 0

def describe (storage : Array α) : String := s!"Array(len={storage.size})"

/-- Computes every cell on its own, in order. -/
def tabulate (count : Nat) (cell : Nat → Option α) : Option (Array α) :=
  (List.range count).foldlM (fun cells i => do return cells.push (← cell i)) #[]

def cells (count : Nat) (value : Nat → α) : Array α := (Array.range count).map value

/-- Sum of products along a list of offset pairs, added in the order of the list. -/
def dotAlong [Zero α] [Add α] [Mul α] (left right : Array α)
    (offsets : List (Nat × Nat)) : Option α :=
  offsets.foldlM (fun total pair => do return total + (← left[pair.1]?) * (← right[pair.2]?)) 0

def addAt [Add α] (target : Array α) (offset : Nat) (value : α) : Option (Array α) :=
  if inside : offset < target.size then some (target.set offset (target[offset] + value)) else none

/-- Adds values onto a target along a list of pairs (target offset, value offset), in its order. -/
def scatterAdd {β : Type} [Add β] (target values : Array β) (moves : List (Nat × Nat)) :
    Option (Array β) :=
  moves.foldlM (fun cells move => do addAt cells move.1 (← values[move.2]?)) target

-- Replaces the cells from `start` on by a block, as far as the target reaches.
def overwrite (target : Array α) (start : Nat) (block : Array α) : Array α :=
  Array.ofFn fun i : Fin target.size =>
    if start ≤ i.val then block.getD (i.val - start) target[i] else target[i]

def slice (storage : Array α) (start stop : Nat) : Option (Array α) :=
  if stop ≤ storage.size then some (storage.extract start stop) else none

def assign (dest src : Array α) : Except Error (Array α) :=
  if dest.size = src.size then .ok src else .error (.shapeMismatch [dest.size] [src.size])

-- Storage can be seen as rank-4 only when it has exactly the elements of the layout.
def fitsLayout (storage : Array α) (layout : Layout) : Except Error Unit :=
  if storage.size = layout.count then .ok () else .error (.unfitStorage storage.size layout.dims)

-- Storage can be seen as a matrix when it has enough elements; the rest is left out.
def fitsMatrix (storage : Array α) (rows cols : Nat) : Except Error Unit :=
  if rows * cols ≤ storage.size then .ok () else .error (.shortMatrix storage.size rows cols)

/-- Bytes of memory that a host has; no block reaches this size. -/
def hostMemory : Nat := Nat.pow 2 36

-- A block is refused above the largest possible capacity, and from the size of the
-- memory on.
def hostRefusal (elements : Nat) : Option AllocationRefusal :=
  let bytes := elements * scalarBytes
  if Nat.pow 2 63 - 1 < bytes then some .capacity
  else if hostMemory ≤ bytes then some .exhausted
  else none

def allocate [Zero α] (refusal : Nat → Option AllocationRefusal) (elements : Nat) :
    Except Error (Array α) :=
  match refusal elements with
  | some cause => .error (.outOfMemory elements cause)
  | none => .ok (zeros elements)

/-! What the operations do to single cells. -/

@[simp] theorem size_zeros [Zero α] (count : Nat) : (zeros count : Array α).size = count := by
  simp [zeros]

@[simp] theorem size_overwrite (target : Array α) (start : Nat) (block : Array α) :
    (overwrite target start block).size = target.size := by
  simp [overwrite]

theorem getElem?_overwrite (target : Array α) (start : Nat) (block : Array α) (i : Nat)
    (inside : i < target.size) :
    (overwrite target start block)[i]? =
      some (if start ≤ i then block.getD (i - start) target[i] else target[i]) := by
  simp [overwrite, inside]

theorem fitsLayout_eq_ok_iff (storage : Array α) (layout : Layout) :
    fitsLayout storage layout = .ok () ↔ storage.size = layout.count := by
  unfold fitsLayout
  split <;> simp_all

theorem fitsMatrix_eq_ok_iff (storage : Array α) (rows cols : Nat) :
    fitsMatrix storage rows cols = .ok () ↔ rows * cols ≤ storage.size := by
  unfold fitsMatrix
  split <;> simp_all

theorem assign_eq_ok_iff (dest src result : Array α) :
    assign dest src = .ok result ↔ dest.size = src.size ∧ result = src := by
  unfold assign
  split <;> simp_all [eq_comm]

@[simp] theorem size_cells (count : Nat) (value : Nat → α) : (cells count value).size = count := by
  simp [cells]

theorem getElem?_cells {count i : Nat} (value : Nat → α) (inside : i < count) :
    (cells count value)[i]? = some (value i) := by
  simp [cells, inside]

theorem tabulate_eq_some {count : Nat} {cell : Nat → Option α} {value : Nat → α}
    (each : ∀ i < count, cell i = some (value i)) :
    tabulate count cell = some (cells count value) := by
  induction count with
  | zero => simp [tabulate, cells]
  | succ count ih =>
    have before := ih fun i inside => each i (by omega)
    unfold tabulate at before ⊢
    rw [List.range_succ, List.foldlM_append, before]
    simp [cells, each count (by omega), Array.range_succ]

end TensorEngine.Buffer

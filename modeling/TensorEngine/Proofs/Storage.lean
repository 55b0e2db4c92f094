import TensorEngine.Buffer

/-! What the operations on flat storage compute, cell by cell. Nothing is assumed
of the scalars here, so the order of every sum is kept. -/

set_option autoImplicit false

namespace TensorEngine.Buffer

variable {α : Type}

theorem cells_congr {count : Nat} {value other : Nat → α} (same : ∀ i < count, value i = other i) :
    cells count value = cells count other := by
  apply Array.ext
  · simp
  · intro i inside _
    simpa [cells] using same i (by simpa using inside)

theorem eq_cells {storage : Array α} {count : Nat} {value : Nat → α} (size : storage.size = count)
    (each : ∀ i < count, storage[i]? = some (value i)) : storage = cells count value := by
  apply Array.ext
  · simpa using size
  · intro i inside _
    have found := each i (size ▸ inside)
    rw [Array.getElem?_eq_getElem inside] at found
    simpa [cells] using Option.some.inj found

theorem zeros_eq_cells [Zero α] (count : Nat) : (zeros count : Array α) = cells count fun _ => 0 :=
  eq_cells (size_zeros count) fun i inside => by simp [zeros, inside]

section

variable [Zero α]

-- A cell of storage; zero beyond its end.
def cell (storage : Array α) (i : Nat) : α := storage.getD i 0

theorem getElem?_eq_cell {storage : Array α} {i : Nat} (inside : i < storage.size) :
    storage[i]? = some (cell storage i) := by
  simp [cell, inside]

def read (layout : Layout) (storage : Array α) (index : Index) : α :=
  cell storage (layout.offset index)

theorem cell_cells {count i : Nat} (value : Nat → α) (inside : i < count) :
    cell (cells count value) i = value i :=
  Option.some.inj ((getElem?_eq_cell (by simpa using inside)).symm.trans
    (getElem?_cells value inside))

theorem cells_cell (storage : Array α) : cells storage.size (cell storage) = storage :=
  (eq_cells rfl fun _ => getElem?_eq_cell).symm

/-- The value at an offset, and zero where there is none. -/
def valueAt (values : Array α) (source : Option Nat) : Option α :=
  match source with
  | some source => values[source]?
  | none => some 0

theorem slice_eq_some {storage : Array α} {start stop : Nat} (fits : stop ≤ storage.size) :
    slice storage start stop = some (cells (stop - start) fun i => cell storage (start + i)) := by
  unfold slice
  rw [if_pos fits]
  congr 1
  apply eq_cells
  · simp [Nat.min_eq_left fits]
  · intro i inside
    have within : start + i < storage.size := by omega
    simp [cell, inside, within, Nat.min_eq_left fits]

theorem overwrite_cells {target : Array α} {start count : Nat} (value : Nat → α) :
    overwrite target start (cells count value) =
      cells target.size fun i =>
        if start ≤ i ∧ i < start + count then value (i - start) else cell target i := by
  apply eq_cells (size_overwrite ..)
  intro i inside
  rw [getElem?_overwrite _ _ _ _ inside]
  congr 1
  by_cases after : start ≤ i
  · by_cases before : i < start + count
    · have found := getElem?_cells value (show i - start < count by omega)
      simp [after, before, found]
    · have beyond : ¬ i - start < count := by omega
      simp [after, before, beyond, cells, cell, inside]
  · simp [after, cell, inside]

theorem cell_overwrite {target : Array α} {start i : Nat} (block : Array α)
    (inside : i < target.size) :
    cell (overwrite target start block) i =
      if start ≤ i ∧ i < start + block.size then cell block (i - start) else cell target i := by
  rw [← cells_cell block, overwrite_cells, cell_cells _ inside, size_cells, cells_cell]

theorem eq_of_cells {one other : Array α} (size : one.size = other.size)
    (each : ∀ i < one.size, cell one i = cell other i) : one = other := by
  rw [← cells_cell one, ← cells_cell other, ← size]
  exact cells_congr each

end

theorem foldlM_eq_some {β γ : Type} {items : List γ} {step : β → γ → Option β} {next : β → γ → β}
    (start : β) (each : ∀ state, ∀ item ∈ items, step state item = some (next state item)) :
    items.foldlM step start = some (items.foldl next start) := by
  induction items generalizing start with
  | nil => rfl
  | cons item rest ih =>
    rw [List.foldlM_cons, each start item (by simp)]
    exact ih _ fun state other member => each state other (by simp [member])

theorem foldlM_of_invariant {β γ : Type} {items : List γ} {step : β → γ → Option β}
    (keeps : β → Prop) {start : β} (begins : keeps start)
    (each : ∀ state, keeps state → ∀ item ∈ items, ∃ next, step state item = some next ∧
      keeps next) :
    ∃ last, items.foldlM step start = some last ∧ keeps last := by
  induction items generalizing start with
  | nil => exact ⟨start, rfl, begins⟩
  | cons item rest ih =>
    obtain ⟨next, stepped, kept⟩ := each start begins item (by simp)
    rw [List.foldlM_cons, stepped]
    exact ih kept fun state held other member => each state held other (by simp [member])

theorem mapM_of_total {β γ : Type} {items : List γ} {f : γ → Option β} (holds : β → Prop)
    (each : ∀ item ∈ items, ∃ value, f item = some value ∧ holds value) :
    ∃ values, items.mapM f = some values ∧ ∀ value ∈ values, holds value := by
  induction items with
  | nil => exact ⟨[], rfl, by simp⟩
  | cons item rest ih =>
    obtain ⟨value, computed, held⟩ := each item (by simp)
    obtain ⟨values, others, all⟩ := ih fun other member => each other (by simp [member])
    refine ⟨value :: values, ?_, by simpa using ⟨held, all⟩⟩
    rw [List.mapM_cons, computed, others]
    rfl

theorem mapM_eq_some {β γ : Type} {items : List γ} {f : γ → Option β} {value : γ → β}
    (each : ∀ item ∈ items, f item = some (value item)) :
    items.mapM f = some (items.map value) := by
  induction items with
  | nil => rfl
  | cons item rest ih =>
    rw [List.mapM_cons, each item (by simp), ih fun other member => each other (by simp [member])]
    rfl

theorem findM?_of_total {γ : Type} (items : List γ) (test : γ → Option Bool)
    (each : ∀ item ∈ items, ∃ passed, test item = some passed) :
    ∃ found, items.findM? test = some found ∧ ∀ item, found = some item → item ∈ items := by
  induction items with
  | nil => exact ⟨none, rfl, nofun⟩
  | cons item rest ih =>
    obtain ⟨passed, tested⟩ := each item (by simp)
    obtain ⟨found, searched, member⟩ := ih fun other inRest => each other (by simp [inRest])
    unfold List.findM?
    rw [tested]
    cases passed with
    | true => exact ⟨some item, rfl, by simp⟩
    | false => exact ⟨found, searched, fun other held => by simp [member other held]⟩

theorem findM?_eq_some {γ : Type} {items : List γ} {test : γ → Option Bool} {passes : γ → Bool}
    (each : ∀ item ∈ items, test item = some (passes item)) :
    items.findM? test = some (items.find? passes) := by
  induction items with
  | nil => rfl
  | cons item rest ih =>
    unfold List.findM?
    rw [each item (by simp), List.find?_cons]
    cases passes item with
    | true => rfl
    | false => exact ih fun other inRest => each other (by simp [inRest])

theorem size_of_tabulate {count : Nat} {cell : Nat → Option α} {storage : Array α}
    (computed : tabulate count cell = some storage) : storage.size = count := by
  unfold tabulate at computed
  induction count generalizing storage with
  | zero =>
    cases computed
    rfl
  | succ count ih =>
    rw [List.range_succ, List.foldlM_append] at computed
    obtain ⟨before, found, last⟩ := Option.bind_eq_some_iff.mp computed
    simp only [List.foldlM_cons, List.foldlM_nil, bind_pure] at last
    obtain ⟨value, -, pushed⟩ := Option.bind_eq_some_iff.mp last
    cases pushed
    rw [Array.size_push, ih found]

theorem tabulate_congr {count : Nat} {cell other : Nat → Option α}
    (same : ∀ i < count, cell i = other i) :
    tabulate count cell = tabulate count other := by
  induction count with
  | zero => rfl
  | succ count ih =>
    have before := ih fun i inside => same i (by omega)
    unfold tabulate at before ⊢
    rw [List.range_succ, List.foldlM_append, List.foldlM_append, before]
    simp [same count (by omega)]

section

variable [Zero α]

def assignAt (target : Array α) (offset : Nat) (value : α) : Option (Array α) :=
  if inside : offset < target.size then some (target.set offset value) else none

/-- Assigns values to a target along a list of pairs (target offset, value offset), in its order. -/
def assignAlong (target values : Array α) (writes : List (Nat × Option Nat)) : Option (Array α) :=
  writes.foldlM (fun cells write => do assignAt cells write.1 (← valueAt values write.2)) target

theorem assignAt_eq_some {target : Array α} {offset : Nat} (value : α)
    (inside : offset < target.size) :
    assignAt target offset value =
      some (cells target.size fun i => if offset = i then value else cell target i) := by
  unfold assignAt
  rw [dif_pos inside]
  congr 1
  apply eq_cells (by simp)
  intro i within
  by_cases same : offset = i
  · subst same
    simp [inside]
  · simp [cell, same, within]

/-- Where every write to a cell carries one and the same value, only which cells are written
counts. -/
theorem assignAlong_eq_some {target values : Array α} {writes : List (Nat × Option Nat)}
    (value : Nat → α) (inside : ∀ write ∈ writes, write.1 < target.size)
    (carried : ∀ write ∈ writes, valueAt values write.2 = some (value write.1)) :
    assignAlong target values writes =
      some (cells target.size fun i =>
        if i ∈ writes.map Prod.fst then value i else cell target i) := by
  unfold assignAlong
  induction writes generalizing target with
  | nil => simp [cells_cell]
  | cons write rest ih =>
    have first := inside write (by simp)
    have later : ∀ other ∈ rest, other.1 < target.size := fun other member =>
      inside other (by simp [member])
    rw [List.foldlM_cons, carried write (by simp)]
    change (assignAt target write.1 (value write.1)).bind _ = _
    rw [assignAt_eq_some _ first, Option.bind_some,
      ih (by simpa using later) fun other member => carried other (by simp [member]), size_cells]
    refine congrArg some (cells_congr fun i within => ?_)
    rw [cell_cells _ within]
    by_cases again : i ∈ rest.map Prod.fst
    · simp [again]
    · by_cases same : write.1 = i
      · subst same
        simp [again]
      · simp [again, same, Ne.symm same]

end

section

variable [Zero α] [Add α] [Mul α]

/-- Sum of products along offset pairs, in the order of the list. -/
def sumAlong (left right : Array α) (offsets : List (Nat × Nat)) : α :=
  offsets.foldl (fun total pair => total + cell left pair.1 * cell right pair.2) 0

theorem dotAlong_eq_some {left right : Array α} {offsets : List (Nat × Nat)}
    (inside : ∀ pair ∈ offsets, pair.1 < left.size ∧ pair.2 < right.size) :
    dotAlong left right offsets = some (sumAlong left right offsets) := by
  refine foldlM_eq_some _ fun total pair member => ?_
  obtain ⟨first, second⟩ := inside pair member
  rw [getElem?_eq_cell first, getElem?_eq_cell second]
  rfl

end

section

variable [Zero α] [Add α]

/-- What a cell holds once the moves that end in it have been added, in order. -/
def collected (target values : Array α) (moves : List (Nat × Nat)) (i : Nat) : α :=
  (moves.filter (·.1 = i)).foldl (fun total move => total + cell values move.2) (cell target i)

theorem addAt_eq_some {target : Array α} {offset : Nat} (value : α)
    (inside : offset < target.size) :
    addAt target offset value =
      some (cells target.size fun i =>
        if offset = i then cell target i + value else cell target i) := by
  unfold addAt
  rw [dif_pos inside]
  congr 1
  apply eq_cells (by simp)
  intro i within
  by_cases same : offset = i
  · subst same
    simp [cell, inside]
  · simp [cell, same, within]

theorem scatterAdd_eq_some {target values : Array α} {moves : List (Nat × Nat)}
    (inside : ∀ move ∈ moves, move.1 < target.size ∧ move.2 < values.size) :
    scatterAdd target values moves = some (cells target.size (collected target values moves)) := by
  unfold scatterAdd
  -- The first move changes the target, so the rest is met with another one.
  induction moves generalizing target with
  | nil => exact congrArg some (cells_cell target).symm
  | cons move rest ih =>
    obtain ⟨first, second⟩ := inside move (by simp)
    have later : ∀ other ∈ rest, other.1 < target.size ∧ other.2 < values.size :=
      fun other member => inside other (by simp [member])
    rw [List.foldlM_cons, getElem?_eq_cell second]
    change (addAt target move.1 (cell values move.2)).bind _ = _
    rw [addAt_eq_some _ first, Option.bind_some]
    rw [ih (by simpa using later), size_cells]
    refine congrArg some (cells_congr fun i within => ?_)
    unfold collected
    rw [cell_cells _ within]
    by_cases same : move.1 = i <;> simp [same]

end

end TensorEngine.Buffer

import Mathlib.Data.List.Basic
import Mathlib.Data.List.Nodup
import TensorEngine.Proofs.Storage

/-! Storage overwritten in place. A schedule takes the cells group by group, and what a
group becomes is computed from the group alone. Where no two groups share a cell, every
order of them leaves the same. -/

set_option autoImplicit false

namespace TensorEngine

variable {α : Type}

namespace Buffer

variable [Zero α]

/-- Storage with new values at some offsets, in the order of the offsets. -/
def replaceAt (storage : Array α) (offsets : List Nat) (values : List α) : Array α :=
  cells storage.size fun i =>
    if i ∈ offsets then values.getD (offsets.idxOf i) 0 else cell storage i

/-- One group in place: it is read as it stands, and then written. -/
def overwriteGroup (compute : List Nat → List α → List α) (storage : Array α)
    (group : List Nat) : Array α :=
  replaceAt storage group (compute group (group.map (cell storage)))

/-- All groups of a schedule; each meets what those before it have left. -/
def overwriteGroups (compute : List Nat → List α → List α) (storage : Array α)
    (schedule : List (List Nat)) : Array α :=
  schedule.foldl (overwriteGroup compute) storage

theorem cell_of_size_le {storage : Array α} {i : Nat} (beyond : storage.size ≤ i) :
    cell storage i = 0 := by
  simp [cell, beyond]

theorem cell_replaceAt {storage : Array α} (offsets : List Nat) (values : List α) {i : Nat}
    (inside : i < storage.size) :
    cell (replaceAt storage offsets values) i =
      if i ∈ offsets then values.getD (offsets.idxOf i) 0 else cell storage i := cell_cells _ inside

theorem cell_replaceAt_of_not_mem {storage : Array α} {offsets : List Nat} (values : List α)
    {i : Nat} (outside : i ∉ offsets) :
    cell (replaceAt storage offsets values) i = cell storage i := by
  by_cases inside : i < storage.size
  · rw [cell_replaceAt offsets values inside, if_neg outside]
  · rw [cell_of_size_le (by simpa [replaceAt] using inside), cell_of_size_le (Nat.not_lt.mp inside)]

/-- The groups met so far hold what was computed from the original storage; the rest is original. -/
structure Overwritten (compute : List Nat → List α → List α) (original : Array α)
    (met : List (List Nat)) (storage : Array α) : Prop where
  size : storage.size = original.size
  within : ∀ group ∈ met, ∀ i ∈ group, i < original.size →
    cell storage i = (compute group (group.map (cell original))).getD (group.idxOf i) 0
  outside : ∀ i, (∀ group ∈ met, i ∉ group) → cell storage i = cell original i

variable {compute : List Nat → List α → List α} {original storage : Array α} {met : List (List Nat)}

theorem overwritten_start (compute : List Nat → List α → List α) (original : Array α) :
    Overwritten compute original [] original := ⟨rfl, nofun, fun _ _ => rfl⟩

-- A group that shares no cell with those met before is still read as it was.
theorem Overwritten.step (overwritten : Overwritten compute original met storage) {group : List Nat}
    (apart : ∀ before ∈ met, List.Disjoint before group) :
    Overwritten compute original (met ++ [group]) (overwriteGroup compute storage group) := by
  have original_read : group.map (cell storage) = group.map (cell original) :=
    List.map_congr_left fun i member =>
      overwritten.outside i fun before earlier shared => apart before earlier shared member
  unfold overwriteGroup
  rw [original_read]
  refine ⟨(size_cells ..).trans overwritten.size, fun current met i member inside => ?_,
    fun i avoided => ?_⟩
  · rw [← overwritten.size] at inside
    rcases List.mem_append.mp met with earlier | last
    · have others : i ∉ group := fun shared => apart current earlier member shared
      rw [cell_replaceAt_of_not_mem _ others]
      exact overwritten.within current earlier i member (overwritten.size ▸ inside)
    · rw [List.mem_singleton.mp last] at member ⊢
      rw [cell_replaceAt _ _ inside, if_pos member]
  · rw [cell_replaceAt_of_not_mem _ (avoided group (by simp))]
    exact overwritten.outside i fun before earlier => avoided before (by simp [earlier])

theorem Overwritten.run (overwritten : Overwritten compute original met storage)
    {schedule : List (List Nat)} (disjoint : (met ++ schedule).Pairwise List.Disjoint) :
    Overwritten compute original (met ++ schedule) (overwriteGroups compute storage schedule) := by
  induction schedule generalizing met storage with
  | nil => simpa [overwriteGroups] using overwritten
  | cons group rest ih =>
    have apart : ∀ before ∈ met, List.Disjoint before group := fun before earlier =>
      (List.pairwise_append.mp disjoint).2.2 before earlier group (by simp)
    have next := ih (overwritten.step apart) (by simpa using disjoint)
    simpa [overwriteGroups] using next

/-- A schedule that covers the storage and meets no cell twice leaves what is computed from
the original groups. -/
theorem overwriteGroups_eq {schedule : List (List Nat)} (disjoint : schedule.Pairwise List.Disjoint)
    {result : Array α} (size : result.size = original.size)
    (covered : ∀ i < original.size, ∃ group ∈ schedule, i ∈ group ∧
      cell result i = (compute group (group.map (cell original))).getD (group.idxOf i) 0) :
    overwriteGroups compute original schedule = result := by
  have final := (overwritten_start compute original).run disjoint
  rw [List.nil_append] at final
  refine eq_of_cells (final.size.trans size.symm) fun i inside => ?_
  rw [final.size] at inside
  obtain ⟨group, listed, member, same⟩ := covered i inside
  exact (final.within group listed i member inside).trans same.symm

-- Steps that do what is computed for each group, on storage of one size.
theorem foldl_eq_overwriteGroups {step : Array α → List Nat → Array α} {count : Nat}
    {schedule : List (List Nat)}
    (each : ∀ storage : Array α, storage.size = count → ∀ group ∈ schedule,
      step storage group = overwriteGroup compute storage group)
    (size : storage.size = count) :
    schedule.foldl step storage = overwriteGroups compute storage schedule := by
  induction schedule generalizing storage with
  | nil => rfl
  | cons group rest ih =>
    rw [List.foldl_cons, each storage size group (by simp)]
    exact ih (fun other fits following member => each other fits following (by simp [member]))
      ((size_cells ..).trans size)

theorem replaceAt_replaceAt (storage : Array α) (offsets : List Nat) (first second : List α) :
    replaceAt (replaceAt storage offsets first) offsets second =
      replaceAt storage offsets second := by
  unfold replaceAt
  rw [size_cells]
  refine cells_congr fun i inside => ?_
  split
  · rfl
  · rename_i outside
    rw [cell_cells _ inside, if_neg outside]

-- What has been written is read back.
theorem map_cell_replaceAt {storage : Array α} {offsets : List Nat} (nodup : offsets.Nodup)
    (inside : ∀ i ∈ offsets, i < storage.size) {values : List α}
    (length : values.length = offsets.length) :
    offsets.map (cell (replaceAt storage offsets values)) = values := by
  refine List.ext_getElem (by simpa using length.symm) fun place first second => ?_
  rw [List.getElem_map, cell_replaceAt _ _ (inside _ (List.getElem_mem _)),
    if_pos (List.getElem_mem _), nodup.idxOf_getElem]
  simp [second]

/-- A sweep over a group: the reduction sees the group as it stands, and then the cells are
overwritten one after another. -/
def sweep {β : Type} (reduce : List α → β) (update : β → Nat → α → α) (storage : Array α)
    (group : List Nat) :
    Array α :=
  let reduced := reduce (group.map (cell storage))
  group.foldl (fun swept i => replaceAt swept [i] [update reduced i (cell swept i)]) storage

-- No cell is met twice, so each is updated from what it held before the sweep.
theorem sweep_eq {β : Type} (reduce : List α → β) (update : β → Nat → α → α) (storage : Array α)
    {group : List Nat} (nodup : group.Nodup) :
    sweep reduce update storage group = replaceAt storage group
      (group.map fun i => update (reduce (group.map (cell storage))) i (cell storage i)) := by
  let reduced := reduce (group.map (cell storage))
  let compute (single : List Nat) (values : List α) : List α :=
    List.zipWith (update reduced) single values
  have folded : sweep reduce update storage group = overwriteGroups compute storage
      (group.map fun i => [i]) := by
    unfold overwriteGroups
    rw [List.foldl_map]
    rfl
  have disjoint : (group.map fun i => [i]).Pairwise List.Disjoint :=
    List.pairwise_map.mpr (nodup.imp fun different => by simpa [eq_comm] using different)
  have final := (overwritten_start compute storage).run disjoint
  rw [List.nil_append, ← folded] at final
  refine eq_of_cells (final.size.trans (size_cells ..).symm) fun i inside => ?_
  rw [final.size] at inside
  rw [cell_replaceAt _ _ inside]
  split
  · rename_i member
    have place := List.idxOf_lt_length_of_mem member
    rw [final.within [i] (List.mem_map_of_mem member) i (by simp) inside]
    simp [compute, reduced, place]
  · rename_i outside
    exact final.outside i fun single listed shared => by
      obtain ⟨j, member, rfl⟩ := List.mem_map.mp listed
      exact outside (List.mem_singleton.mp shared ▸ member)

end Buffer

end TensorEngine

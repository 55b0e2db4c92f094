import TensorEngine.Proofs.Comparison

/-! Scans for a greatest element. A scan takes an element that exceeds what it has found
so far, so it ends at the first of those that nothing exceeds, or where it began. -/

set_option autoImplicit false

namespace TensorEngine.Pool

variable {α : Type} [LT α] [BEq α]

/-- Where a scan for a greatest element stands that has seen some offsets. Either nothing
that it has seen exceeds what it began with, or it is at the first offset with a value
that nothing exceeds. -/
inductive Scanned (value : Nat → α) (start : Nat × α) (seen : List Nat) : Nat × α → Prop where
  | unmoved (greatest : ∀ other ∈ seen, ¬ start.2 < value other) : Scanned value start seen start
  | moved {before after : List Nat} {offset : Nat} (place : seen = before ++ offset :: after)
      (first : ∀ other ∈ before, ¬ (value other == value offset) = true)
      (equal : (value offset == value offset) = true)
        (greatest : ∀ other ∈ seen, ¬ value offset < value other) :
    Scanned value start seen (offset, value offset)

variable {value : Nat → α} {start best : Nat × α} {seen : List Nat}

theorem Scanned.greatest (scanned : Scanned value start seen best) :
    ∀ other ∈ seen, ¬ best.2 < value other := by
  cases scanned with
  | unmoved greatest => exact greatest
  | moved _ _ _ greatest => exact greatest

/-- A scan ends where it began, or at an offset that it has seen. -/
theorem Scanned.mem (scanned : Scanned value start seen best) : best.1 ∈ start.1 :: seen := by
  cases scanned with
  | unmoved => exact List.mem_cons_self
  | moved place => simp [place]

variable [LawfulComparison α]

/-- The first offset that equals what a scan has found is the one it has found it at. -/
theorem Scanned.eq_of_find? (scanned : Scanned value start seen best)
    (begins : ∀ first ∈ seen.head?, first = start.1) {found : Nat}
    (search : seen.find? (fun other => value other == value best.1) = some found) :
    found = best.1 := by
  cases scanned with
  | unmoved =>
    obtain ⟨first, rest, rfl⟩ :=
      List.exists_cons_of_ne_nil (List.ne_nil_of_mem (List.mem_of_find?_eq_some search))
    obtain rfl := begins first rfl
    have passed : (value found == value start.1) = true := by simpa using List.find?_some search
    have equal := LawfulComparison.beq_self_of_beq passed
    simpa [List.find?_cons, equal, eq_comm] using search
  | @moved before after offset place first equal =>
    have missed : before.find? (fun other => value other == value offset) = none :=
      List.find?_eq_none.mpr first
    rw [place, List.find?_append, missed, Option.none_or] at search
    simpa [List.find?_cons, equal, eq_comm] using search

variable [DecidableLT α]

/-- One step of the scan. -/
def raise (value : Nat → α) (best : Nat × α) (offset : Nat) : Nat × α :=
  if best.2 < value offset then (offset, value offset) else best

theorem Scanned.step (scanned : Scanned value start seen best) (offset : Nat) :
    Scanned value start (seen ++ [offset]) (raise value best offset) := by
  unfold raise
  split
  · rename_i above
    have below := scanned.greatest
    -- What equals or exceeds the new value exceeds the old one as well.
    refine .moved rfl (fun other member equal => ?_) (LawfulComparison.beq_self_of_lt above)
      fun other member exceeds => ?_
    · exact below other member (LawfulComparison.lt_of_lt_of_beq above equal)
    · rcases List.mem_append.mp member with old | new
      · exact below other old (LawfulComparison.lt_trans above exceeds)
      · rw [List.mem_singleton.mp new] at exceeds
        exact LawfulComparison.not_lt_self _ exceeds
  · rename_i notAbove
    have longer {bound : α} (old : ∀ other ∈ seen, ¬ bound < value other)
        (new : ¬ bound < value offset) :
          ∀ other ∈ seen ++ [offset], ¬ bound < value other := by
      intro other member
      rcases List.mem_append.mp member with before | last
      · exact old other before
      · rwa [List.mem_singleton.mp last]
    cases scanned with
    | unmoved greatest => exact .unmoved (longer greatest notAbove)
    | @moved before after found place first equal greatest =>
      have later : seen ++ [offset] = before ++ found :: (after ++ [offset]) := by
        rw [place, List.append_assoc, List.cons_append]
      exact .moved later first equal (longer greatest notAbove)

theorem Scanned.run (scanned : Scanned value start seen best) (rest : List Nat) :
    Scanned value start (seen ++ rest) (rest.foldl (raise value) best) := by
  induction rest generalizing seen best with
  | nil => simpa using scanned
  | cons offset rest ih =>
    have stepped := ih (scanned.step offset)
    rwa [List.append_assoc, List.singleton_append] at stepped

end TensorEngine.Pool

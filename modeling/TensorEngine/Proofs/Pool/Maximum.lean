import TensorEngine.Proofs.Pool.Target

/-! Maxima of clipped windows. The positions under a window are scanned row by row, so on
numbers the scan ends at the first position whose value nothing under the window exceeds,
also where all values are the lowest number. A window whose end no word holds is not
scanned, and the scan stays at its corner. -/

set_option autoImplicit false

namespace TensorEngine.Pool

variable {α : Type}

namespace Window

/-- A covered position whose value is at least every covered value. -/
def Greatest [LE α] (window : Window) (shape : Shape) (value : Nat → Nat → α)
    (row col y x : Nat) : Prop :=
  window.Covers shape row col y x ∧ ∀ y' x', window.Covers shape row col y' x' →
    value y' x' ≤ value y x

/-- The first such position, row by row and in a row by columns. -/
structure FirstGreatest [LE α] (window : Window) (shape : Shape) (value : Nat → Nat → α)
    (row col y x : Nat) : Prop where
  greatest : window.Greatest shape value row col y x
  first : ∀ y' x', window.Greatest shape value row col y' x' → y < y' ∨ y = y' ∧ x ≤ x'

-- Only covered values count.
theorem FirstGreatest.congr [LE α] {window : Window} {shape : Shape} {value other : Nat → Nat → α}
    {row col y x : Nat} (first : window.FirstGreatest shape value row col y x)
    (same : ∀ y' x', window.Covers shape row col y' x' → value y' x' = other y' x') :
    window.FirstGreatest shape other row col y x := by
  obtain ⟨⟨covered, greatest⟩, least⟩ := first
  refine ⟨⟨covered, fun y' x' also => ?_⟩,
    fun y' x' ⟨also, greatest'⟩ => least y' x' ⟨also, fun y'' x'' under => ?_⟩⟩
  · rw [← same y' x' also, ← same y x covered]
    exact greatest y' x' also
  · rw [same y'' x'' under, same y' x' also]
    exact greatest' y'' x'' under

/-- The position that an output takes its element from: the first greatest one under a window
whose ends are counted, and the corner of any other window. -/
structure Takes [LE α] (window : Window) (shape : Shape) (value : Nat → Nat → α)
    (row col y x : Nat) : Prop where
  counted : window.Counted row col → window.FirstGreatest shape value row col y x
  wraps : ¬ window.Counted row col → y = row * window.stride.1 ∧ x = col * window.stride.2

theorem Takes.congr [LE α] {window : Window} {shape : Shape} {value other : Nat → Nat → α}
    {row col y x : Nat} (takes : window.Takes shape value row col y x)
    (same : ∀ y' x', window.Covers shape row col y' x' → value y' x' = other y' x') :
    window.Takes shape other row col y x :=
  ⟨fun counted => (takes.counted counted).congr same, takes.wraps⟩

end Window

theorem lowest_le {a : Float32} (number : a.isNaN = false) : (Lowest.lowest : Float32) ≤ a := by
  obtain ⟨r, rank⟩ := exists_float32Rank number
  have least : float32Rank Lowest.lowest = some (toLex (-2, toLex (0, 0))) := rfl
  refine float32_le_iff.mpr ⟨_, least, r, rank, ?_⟩
  unfold float32Rank at rank
  generalize a.toModel.unpack = value at rank
  rcases value with (_ | _) | _ | _ | ⟨_ | _, m, e, _⟩ <;> cases rank <;>
    simp [Prod.Lex.toLex_le_toLex]

/-- On numbers a scan of ascending offsets ends at the least offset whose value is at least
every value that it has seen. -/
theorem Scanned.least {value : Nat → Float32} {start : Nat} {seen : List Nat} {best : Nat × Float32}
    (scanned : Scanned value (start, Lowest.lowest) seen best) (begins : seen.head? = some start)
    (ascending : seen.Pairwise (· < ·)) (numbers : ∀ other ∈ seen, (value other).isNaN = false) :
    (∀ other ∈ seen, value other ≤ value best.1) ∧ ∀ other ∈ seen, value best.1 ≤ value other →
      best.1 ≤ other := by
  cases scanned with
  | unmoved greatest =>
    have member : start ∈ seen := List.mem_of_mem_head? begins
    -- Nothing exceeds the lowest number, which is where the first value starts from.
    refine ⟨fun other inSeen => ?_, fun other inSeen _ => ?_⟩
    · have lowest : (Lowest.lowest : Float32).isNaN = false := rfl
      exact float32_le_trans
        (float32_le_of_not_lt lowest (numbers other inSeen) (greatest other inSeen))
        (lowest_le (numbers start member))
    · obtain ⟨rest, rfl⟩ := List.head?_eq_some_iff.mp begins
      rcases List.mem_cons.mp inSeen with rfl | later
      · exact Nat.le_refl _
      · exact Nat.le_of_lt (List.rel_of_pairwise_cons ascending later)
  | @moved before after offset place first equal greatest =>
    have member : offset ∈ seen := by simp [place]
    have atLeast : ∀ other ∈ seen, value other ≤ value offset := fun other inSeen =>
      float32_le_of_not_lt (numbers offset member) (numbers other inSeen) (greatest other inSeen)
    refine ⟨atLeast, fun other inSeen above => ?_⟩
    rw [place] at inSeen ascending
    obtain ⟨-, fromOffset, -⟩ := List.pairwise_append.mp ascending
    rcases List.mem_append.mp inSeen with earlier | rest
    · have equalOther := float32_beq_of_le (atLeast other (place ▸ inSeen)) above
      exact absurd equalOther (first other earlier)
    · rcases List.mem_cons.mp rest with rfl | later
      · exact Nat.le_refl _
      · exact Nat.le_of_lt (List.rel_of_pairwise_cons fromOffset later)

namespace Geometry

variable {geometry : Geometry} {row col : Nat}

theorem head?_offsets (counted : geometry.window.Counted row col)
    (corner : geometry.window.Covers geometry.src.dims row col (row * geometry.window.stride.1)
      (col * geometry.window.stride.2)) :
    (geometry.offsets row col).head? = some (geometry.corner row col) := by
  have member : geometry.corner row col ∈ geometry.offsets row col :=
    (mem_offsets counted).mpr ⟨_, _, corner, rfl⟩
  obtain ⟨first, rest, split⟩ := List.exists_cons_of_ne_nil (List.ne_nil_of_mem member)
  have begins : (geometry.offsets row col).head? = some first := by rw [split, List.head?_cons]
  rw [begins, corner_of_head?_offsets first begins]

/-- The scan of a window whose ends are not counted stays at the corner. -/
theorem argmax_of_wraps {α : Type} [Lowest α] [LT α] [DecidableLT α] {plane : Array α}
    (fits : geometry.window.Fits) (wraps : ¬ geometry.window.Counted row col) :
    geometry.argmax plane row col = some (geometry.corner row col, Lowest.lowest) := by
  unfold argmax
  rw [offsets_eq_nil fits wraps]
  rfl

end Geometry

end TensorEngine.Pool

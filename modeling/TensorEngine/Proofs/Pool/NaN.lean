import TensorEngine.Proofs.Float
import TensorEngine.Proofs.Pool.Maximum

/-! NaN in pooled windows. A scan starts from the lowest number at the first position of
the window. Where that position holds NaN and no element exceeds the lowest number, NaN is
stored, also when there are numbers in the window. Any other window is pooled to a number,
and no number in the window exceeds it. A window whose end no word holds is not scanned:
what its first position holds is stored, whatever the others hold. -/

set_option autoImplicit false

namespace TensorEngine.Pool

/-- Only NaN and the lowest number itself are not above the lowest number. -/
theorem not_lowest_lt_iff {a : Float32} :
    ¬ (Lowest.lowest : Float32) < a ↔ a.isNaN = true ∨ a = Lowest.lowest := by
  refine ⟨fun notAbove => ?_, ?_⟩
  · cases nan : a.isNaN with
    | true => exact .inl rfl
    | false =>
      have below := float32_le_of_not_lt (a := Lowest.lowest) rfl nan notAbove
      obtain ⟨r, rank, s, least, bound⟩ := float32_le_iff.mp below
      obtain rfl : s = toLex (-2, toLex (0, 0)) := (Option.some.inj least).symm
      have infinite : a.toModel.unpack = .infinity .negative := by
        unfold float32Rank at rank
        generalize a.toModel.unpack = value at rank
        rcases value with (_ | _) | _ | _ | ⟨_ | _, m, e, _⟩
        case infinity.negative => rfl
        all_goals cases rank <;> simp [Prod.Lex.toLex_le_toLex] at bound
      refine .inr ?_
      calc a = Float32.ofModel (.pack a.toModel.unpack) := (repack a).symm
        _ = Lowest.lowest := by rw [infinite]; rfl
  · rintro (nan | rfl) above
    · have number := float32_beq_self_iff.mp (LawfulComparison.beq_self_of_lt above)
      exact absurd (number.symm.trans nan) Bool.false_ne_true
    · exact LawfulComparison.not_lt_self _ above

theorem foldl_raise_eq_or_lt {α : Type} [LT α] [DecidableLT α] [BEq α] [LawfulComparison α]
    (value : Nat → α) (rest : List Nat) (best : Nat × α) :
    rest.foldl (raise value) best = best ∨ best.2 < (rest.foldl (raise value) best).2 := by
  induction rest generalizing best with
  | nil => exact .inl rfl
  | cons offset rest ih =>
    rw [List.foldl_cons]
    have later := ih (raise value best offset)
    unfold raise at later ⊢
    by_cases above : best.2 < value offset
    · rw [if_pos above] at later ⊢
      rcases later with same | higher
      · exact .inr (by rwa [same])
      · exact .inr (LawfulComparison.lt_trans above higher)
    · rwa [if_neg above] at later ⊢

namespace Scanned

variable {value : Nat → Float32} {start : Nat} {seen : List Nat} {best : Nat × Float32}

/-- A scan ends at NaN if it began there and has not moved since. -/
theorem isNaN_iff (scanned : Scanned value (start, Lowest.lowest) seen best)
    (moved : best = (start, Lowest.lowest) ∨ (Lowest.lowest : Float32) < best.2) :
    (value best.1).isNaN = true ↔
      (value start).isNaN = true ∧ ∀ other ∈ seen, (value other).isNaN = true ∨
        value other = Lowest.lowest := by
  cases scanned with
  | unmoved greatest =>
    exact ⟨fun nan => ⟨nan, fun other member => not_lowest_lt_iff.mp (greatest other member)⟩,
      And.left⟩
  | @moved before after offset place first equal greatest =>
    have number := float32_beq_self_iff.mp equal
    refine ⟨fun nan => absurd (number.symm.trans nan) Bool.false_ne_true, fun ⟨nan, low⟩ => ?_⟩
    have notAbove := not_lowest_lt_iff.mpr (low offset (by simp [place]))
    rcases moved with unmoved | above
    · rw [Prod.mk.injEq] at unmoved
      rwa [unmoved.1]
    · exact absurd above notAbove

/-- No number exceeds the number that a scan ends at. -/
theorem le_of_number (scanned : Scanned value (start, Lowest.lowest) seen best)
    (number : (value best.1).isNaN = false) :
    ∀ other ∈ seen, (value other).isNaN = false → value other ≤ value best.1 := by
  intro other member otherNumber
  cases scanned with
  | unmoved greatest =>
    have low : value other ≤ Lowest.lowest :=
      float32_le_of_not_lt rfl otherNumber (greatest other member)
    exact float32_le_trans low (lowest_le number)
  | moved _ _ _ greatest => exact float32_le_of_not_lt number otherNumber (greatest other member)

end Scanned

namespace Geometry

variable {geometry : Geometry} {window : Window} {src : Layout} {row col : Nat}

/-- What forward stores for an output: a value of its window, which is NaN only if the first
element is NaN and the others are NaN or the lowest number. Backward finds no element that
equals it just if it is NaN. -/
structure Pooled (geometry : Geometry) (plane : Array Float32) (row col : Nat)
    (stored : Float32) : Prop where
  forward : ∃ best, geometry.argmax plane row col = some best ∧ plane[best.1]? = some stored
  isNaN_iff : stored.isNaN = true ↔
    (Buffer.cell plane (geometry.corner row col)).isNaN = true ∧
      ∀ y x, geometry.window.Covers geometry.src.dims row col y x →
        (Buffer.cell plane (y * geometry.src.dims.cols + x)).isNaN = true ∨
          Buffer.cell plane (y * geometry.src.dims.cols + x) = Lowest.lowest
  greatest : stored.isNaN = false → ∀ y x, geometry.window.Covers geometry.src.dims row col y x →
    (Buffer.cell plane (y * geometry.src.dims.cols + x)).isNaN = false →
      Buffer.cell plane (y * geometry.src.dims.cols + x) ≤ stored
  fallback : geometry.firstMatch plane row col stored = some none ↔ stored.isNaN = true

-- A value of the window is found again unless it does not equal itself.
theorem firstMatch_eq_none_iff {plane : Array Float32} (size : plane.size = geometry.src.plane)
    {offset : Nat} (member : offset ∈ geometry.offsets row col) :
    geometry.firstMatch plane row col (Buffer.cell plane offset) = some none ↔
      (Buffer.cell plane offset).isNaN = true := by
  rw [firstMatch_eq_some size, Option.some.injEq, List.find?_eq_none]
  refine ⟨fun missed => ?_, fun nan other _ same => ?_⟩
  · have unequal := missed offset member
    rw [float32_beq_self_iff] at unequal
    exact (Bool.not_eq_false _).mp unequal
  · obtain ⟨r, -, rank⟩ := float32_beq_iff.mp same
    have number := float32_beq_self_iff.mp (float32_beq_iff.mpr ⟨r, rank, rank⟩)
    exact absurd (number.symm.trans nan) Bool.false_ne_true

theorem exists_pooled {plane : Array Float32} (size : plane.size = geometry.src.plane)
    (counted : geometry.window.Counted row col)
    (corner : geometry.window.Covers geometry.src.dims row col (row * geometry.window.stride.1)
      (col * geometry.window.stride.2)) :
    ∃ stored, geometry.Pooled plane row col stored := by
  have begun : Scanned (Buffer.cell plane) (geometry.corner row col, Lowest.lowest) [] _ :=
    .unmoved nofun
  have scanned := begun.run (geometry.offsets row col)
  rw [List.nil_append] at scanned
  have scan : geometry.argmax plane row col = _ := argmax_eq_some size
  have moved := foldl_raise_eq_or_lt (Buffer.cell plane) (geometry.offsets row col)
    (geometry.corner row col, Lowest.lowest)
  generalize (geometry.offsets row col).foldl (raise (Buffer.cell plane)) _ = best
    at scanned scan moved
  have member : best.1 ∈ geometry.offsets row col := by
    have begins := List.mem_of_mem_head? (head?_offsets counted corner)
    rcases List.mem_cons.mp scanned.mem with atCorner | later
    · exact atCorner ▸ begins
    · exact later
  have offsets (holds : Nat → Prop) : (∀ offset ∈ geometry.offsets row col, holds offset) ↔
      ∀ y x, geometry.window.Covers geometry.src.dims row col y x →
        holds (y * geometry.src.dims.cols + x) := by
    refine ⟨fun all y x covered => all _ ((mem_offsets counted).mpr ⟨y, x, covered, rfl⟩),
      fun all offset inWindow => ?_⟩
    obtain ⟨y, x, covered, rfl⟩ := covers_of_mem_offsets inWindow
    exact all y x covered
  refine ⟨Buffer.cell plane best.1, ⟨best, scan, Buffer.getElem?_eq_cell (size ▸ offset_lt member)⟩,
    ?_, ?_, ?_⟩
  · rw [scanned.isNaN_iff moved, offsets]
  · exact fun number => (offsets _).mp (scanned.le_of_number number)
  · exact firstMatch_eq_none_iff size member

/-- What forward stores for an output, also if no word holds the ends of its window. -/
structure Stores (geometry : Geometry) (plane : Array Float32) (row col : Nat)
    (stored : Float32) : Prop where
  counted : geometry.window.Counted row col → geometry.Pooled plane row col stored
  wraps : ¬ geometry.window.Counted row col →
    stored = Buffer.cell plane (geometry.corner row col)
  forward : ∃ best, geometry.argmax plane row col = some best ∧ plane[best.1]? = some stored

theorem exists_stores {plane : Array Float32} (size : plane.size = geometry.src.plane)
    (fits : geometry.window.Fits)
    (corner : geometry.window.Covers geometry.src.dims row col (row * geometry.window.stride.1)
      (col * geometry.window.stride.2)) :
    ∃ stored, geometry.Stores plane row col stored := by
  by_cases counted : geometry.window.Counted row col
  · obtain ⟨stored, pooled⟩ := exists_pooled size counted corner
    exact ⟨stored, fun _ => pooled, fun wraps => absurd counted wraps, pooled.forward⟩
  · have inside : geometry.corner row col < plane.size := size ▸ place_lt_of_covers corner
    exact ⟨_, fun kept => absurd kept counted, fun _ => rfl, _, argmax_of_wraps fits counted,
      Buffer.getElem?_eq_cell inside⟩

/-- NaN is stored for a window whose ends are counted only where the first element is NaN and
the other elements are NaN or the lowest number, on any plane of floats and so on whole
storage. For any other window the first element is stored. -/
theorem nan_stored_from_corner (accepted : ofLayout window src = .ok geometry)
    (rowSize : 0 < window.size.1) (colSize : 0 < window.size.2) (fits : window.Fits) :
    (∀ plane : Array Float32, plane.size = geometry.src.plane →
      ∀ row < geometry.dest.dims.rows, ∀ col < geometry.dest.dims.cols, ∃ value,
        geometry.Stores plane row col value) ∧
    ∀ (count : Nat) (dest source : Array Float32), dest.size = count * geometry.dest.plane →
      source.size = count * geometry.src.plane →
        ∃ stored, maxForward geometry dest source = some stored ∧ stored.size = dest.size ∧
          ∀ flat < dest.size, ∃ value, stored[flat]? = some value ∧
            geometry.Stores (planeAt source geometry.src.plane (flat / geometry.dest.plane))
              (flat % geometry.dest.plane / geometry.dest.dims.cols)
              (flat % geometry.dest.plane % geometry.dest.dims.cols) value := by
  have same : geometry.window = window := (ofLayout_eq_ok accepted).1
  have onPlane (plane : Array Float32) (size : plane.size = geometry.src.plane) {row col : Nat}
      (inRows : row < geometry.dest.dims.rows) (inCols : col < geometry.dest.dims.cols) :=
    exists_stores size (same ▸ fits) (covers_corner accepted rowSize colSize inRows inCols)
  refine ⟨fun plane size row inRows col inCols => onPlane plane size inRows inCols, ?_⟩
  intro count dest source destSize sourceSize
  by_cases cells : geometry.dest.plane = 0
  · have empty : dest.size = 0 := by rw [destSize, cells, Nat.mul_zero]
    exact ⟨dest, if_pos cells, rfl, fun flat inside => absurd inside (by omega)⟩
  · have stores : ∀ flat < dest.size, ∃ value,
        geometry.Stores (planeAt source geometry.src.plane (flat / geometry.dest.plane))
          (flat % geometry.dest.plane / geometry.dest.dims.cols)
          (flat % geometry.dest.plane % geometry.dest.dims.cols) value := fun flat inside =>
      have ⟨_, inRows, inCols⟩ := cell_within (destSize ▸ inside)
      onPlane _ (Buffer.size_cells ..) inRows inCols
    choose! value holds using stores
    have filled : maxForward geometry dest source = some (Buffer.cells dest.size value) := by
      refine maxForward_eq_some (Nat.pos_of_ne_zero cells) destSize sourceSize fun flat inside => ?_
      exact (holds flat inside).forward
    refine ⟨_, filled, Buffer.size_cells .., fun flat inside => ?_⟩
    exact ⟨value flat, Buffer.getElem?_cells _ inside, holds flat inside⟩

theorem nan_stored_from_corner_mixed :
    let window : Window := ⟨(2, 2), (1, 2)⟩
    let src := Layout.ofShape ⟨1, 1, 2, 5⟩
    let geometry : Geometry := ⟨window, src, Layout.ofShape ⟨1, 1, 2, 2⟩⟩
    let nan := Float32.ofBits 0x7fc00000
    let low := Float32.ofBits 0xff800000
    let plane : Array Float32 := #[nan, low, nan, 1, 2, low, nan, -3, nan, 5]
    ofLayout window src = .ok geometry ∧
      (∀ row < 2, ∀ col < 2, ∃ value, geometry.Pooled plane row col value) ∧
        ∃ stored, maxForward geometry #[0, 0, 0, 0] plane = some stored ∧ stored.size = 4 := by
  intro window src geometry nan low plane
  have accepted : ofLayout ⟨(2, 2), (1, 2)⟩ (Layout.ofShape ⟨1, 1, 2, 5⟩) =
      .ok ⟨⟨(2, 2), (1, 2)⟩, Layout.ofShape ⟨1, 1, 2, 5⟩, Layout.ofShape ⟨1, 1, 2, 2⟩⟩ := by rfl
  obtain ⟨onPlanes, onStorage⟩ := nan_stored_from_corner accepted (by decide) (by decide)
    ⟨by decide, by decide⟩
  obtain ⟨stored, filled, size, -⟩ := onStorage 1 #[0, 0, 0, 0] plane (by decide) (by decide)
  refine ⟨accepted, fun row inRows col inCols => ?_, stored, filled, size⟩
  obtain ⟨value, stores⟩ := onPlanes plane (by decide) row inRows col inCols
  have word : wordSize = 18446744073709551616 := rfl
  have rowEnd : row * 1 + 2 < wordSize := by omega
  have colEnd : col * 2 + 2 < wordSize := by omega
  exact ⟨value, stores.counted ⟨Counting.keeps_words_iff.mpr rowEnd,
    Counting.keeps_words_iff.mpr colEnd⟩⟩

/-- A window of NaN and the lowest number, in this order, is pooled to NaN. -/
theorem nan_stored_over_lowest :
    let window : Window := ⟨(1, 2), (1, 2)⟩
    let geometry : Geometry := ⟨window, Layout.ofShape ⟨1, 1, 1, 2⟩, Layout.ofShape ⟨1, 1, 1, 1⟩⟩
    let nan := Float32.ofBits 0x7fc00000
    let plane : Array Float32 := #[nan, Lowest.lowest]
    ofLayout window geometry.src = .ok geometry ∧ maxForward geometry #[0] plane = some #[nan] ∧
      geometry.firstMatch plane 0 0 nan = some none ∧ nan.isNaN = true ∧
      window.Covers geometry.src.dims 0 0 0 1 ∧ (Buffer.cell plane 1).isNaN = false ∧
        ¬ Buffer.cell plane 1 ≤ nan := by
  intro window geometry nan plane
  have accepted : ofLayout ⟨(1, 2), (1, 2)⟩ (Layout.ofShape ⟨1, 1, 1, 2⟩) =
      .ok ⟨⟨(1, 2), (1, 2)⟩, Layout.ofShape ⟨1, 1, 1, 2⟩, Layout.ofShape ⟨1, 1, 1, 1⟩⟩ := by rfl
  have covered : window.Covers geometry.src.dims 0 0 0 1 := ⟨by decide, by decide⟩
  refine ⟨accepted, ?_, ?_, ?_, covered, ?_, ?_⟩ <;> decide +kernel

end Geometry

end TensorEngine.Pool

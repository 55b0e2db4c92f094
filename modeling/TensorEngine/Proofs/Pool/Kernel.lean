import TensorEngine.Pool.Kernel
import TensorEngine.Proofs.Pool.Geometry
import TensorEngine.Proofs.Summation

/-! Max pooling on storage of the prescribed lengths. Forward always fills its
destination and looks only at how long that is; backward always adds, along routes that
do not depend on what its gradient holds. -/

set_option autoImplicit false

namespace TensorEngine.Pool

variable {α β : Type} {geometry : Geometry}

section

variable [Zero α]

def planeAt (src : Array α) (plane p : Nat) : Array α :=
  Buffer.cells plane fun i => Buffer.cell src (p * plane + i)

theorem planes_eq_some {src : Array α} {plane count : Nat} (size : src.size = count * plane) :
    planes src plane count = some (Buffer.cells count (planeAt src plane)) := by
  refine Buffer.tabulate_eq_some fun p inside => ?_
  have fits : (p + 1) * plane ≤ src.size := by
    rw [size]
    exact Nat.mul_le_mul_right plane inside
  rw [Buffer.slice_eq_some fits, Nat.succ_mul, Nat.add_sub_cancel_left]
  rfl

end

-- A flat index of the destination falls into a plane, and there on a row and a column.
theorem cell_within {flat count : Nat} {layout : Layout} (inside : flat < count * layout.plane) :
    flat / layout.plane < count ∧ flat % layout.plane / layout.dims.cols < layout.dims.rows ∧
      flat % layout.plane % layout.dims.cols < layout.dims.cols := by
  have plane : 0 < layout.plane := Nat.pos_of_lt_mul_left inside
  have cell : flat % layout.plane < layout.dims.rows * layout.dims.cols := Nat.mod_lt _ plane
  have cols : 0 < layout.dims.cols := Nat.pos_of_lt_mul_left cell
  exact ⟨Nat.div_lt_of_lt_mul (Nat.mul_comm _ _ ▸ inside),
    Nat.div_lt_of_lt_mul (Nat.mul_comm _ _ ▸ cell), Nat.mod_lt _ cols⟩

section

variable [Lowest α] [LT α] [DecidableLT α]

theorem maxForward_congr {dest other src : Array α} (plane : 0 < geometry.dest.plane)
    (size : dest.size = other.size) :
    maxForward geometry dest src = maxForward geometry other src := by
  have cells : geometry.dest.plane ≠ 0 := Nat.pos_iff_ne_zero.mp plane
  unfold maxForward
  dsimp only
  rw [if_neg cells, if_neg cells, size]

theorem size_of_maxForward {dest src result : Array α}
    (stored : maxForward geometry dest src = some result) :
    result.size = dest.size := by
  unfold maxForward at stored
  dsimp only at stored
  split at stored
  · rw [Option.some.inj stored]
  · split at stored
    · cases stored
    · obtain ⟨sources, -, filled⟩ := Option.bind_eq_some_iff.mp stored
      exact Buffer.size_of_tabulate filled

variable [Zero α]

/-- Forward fills storage of whole planes with the elements that the scans end at. -/
theorem maxForward_eq_some {count : Nat} {dest src : Array α} (plane : 0 < geometry.dest.plane)
    (destSize : dest.size = count * geometry.dest.plane)
    (srcSize : src.size = count * geometry.src.plane) {value : Nat → α}
    (scans : ∀ flat < dest.size, ∃ best,
      geometry.argmax (planeAt src geometry.src.plane (flat / geometry.dest.plane))
        (flat % geometry.dest.plane / geometry.dest.dims.cols)
          (flat % geometry.dest.plane % geometry.dest.dims.cols) = some best ∧
            (planeAt src geometry.src.plane (flat / geometry.dest.plane))[best.1]? =
              some (value flat)) :
    maxForward geometry dest src = some (Buffer.cells dest.size value) := by
  have cells : geometry.dest.plane ≠ 0 := Nat.pos_iff_ne_zero.mp plane
  have whole : dest.size % geometry.dest.plane = 0 := by rw [destSize, Nat.mul_mod_left]
  have planeCount : dest.size / geometry.dest.plane = count := by
    rw [destSize, Nat.mul_div_cancel _ plane]
  unfold maxForward
  dsimp only
  rw [if_neg cells, if_neg (not_not.mpr whole), planeCount, planes_eq_some srcSize,
    Option.bind_eq_bind, Option.bind_some]
  refine Buffer.tabulate_eq_some fun flat inside => ?_
  obtain ⟨inPlanes, -, -⟩ := cell_within (destSize ▸ inside)
  obtain ⟨best, scanned, held⟩ := scans flat inside
  rw [Buffer.getElem?_cells _ inPlanes]
  dsimp only [Option.bind_eq_bind, Option.bind_some]
  rw [scanned]
  exact held

theorem maxForward_answers (admitted : geometry.Admitted) {dest src : Array α}
    (destSize : dest.size = geometry.dest.count) (srcSize : src.size = geometry.src.count) :
    ∃ result, maxForward geometry dest src = some result ∧ result.size = dest.size := by
  rw [geometry.src.count_eq_planes] at srcSize
  rw [admitted.dest_count] at destSize
  have scans : ∀ flat < dest.size, ∃ value best,
      geometry.argmax (planeAt src geometry.src.plane (flat / geometry.dest.plane))
        (flat % geometry.dest.plane / geometry.dest.dims.cols)
          (flat % geometry.dest.plane % geometry.dest.dims.cols) =
          some best ∧
        (planeAt src geometry.src.plane (flat / geometry.dest.plane))[best.1]? = some value := by
    intro flat inside
    obtain ⟨-, inRows, inCols⟩ := cell_within (destSize ▸ inside)
    have size : (planeAt src geometry.src.plane (flat / geometry.dest.plane)).size =
        geometry.src.plane :=
      Buffer.size_cells ..
    obtain ⟨best, scanned, bestInside⟩ := admitted.argmax_lt size inRows inCols
    exact ⟨_, best, scanned, Array.getElem?_eq_getElem (size.symm ▸ bestInside)⟩
  choose! value filled using scans
  exact ⟨_, maxForward_eq_some admitted.dest_plane_pos destSize srcSize filled,
    Buffer.size_cells ..⟩

end

section

variable [Zero α] [Lowest α] [LT α] [DecidableLT α] [BEq α]

theorem route_inside (admitted : geometry.Admitted) (src : Array α) {dest : Array α}
    (destSize : dest.size = geometry.dest.count) {flat : Nat}
    (inside : flat < geometry.dest.count) :
    ∃ move, route geometry geometry.src.count
      (Buffer.cells (geometry.src.dims.samples * geometry.src.dims.channels)
        (planeAt src geometry.src.plane)) dest flat = some move ∧
      move.1 < geometry.src.count ∧ move.2 < geometry.dest.count := by
  obtain ⟨inPlanes, inRows, inCols⟩ := cell_within (admitted.dest_count ▸ inside)
  have size : (planeAt src geometry.src.plane (flat / geometry.dest.plane)).size =
      geometry.src.plane :=
    Buffer.size_cells ..
  obtain ⟨target, found, targetInside⟩ :=
    admitted.gradientTarget_lt size inRows inCols (Buffer.cell dest flat)
  have move := place_lt inPlanes targetInside
  rw [← geometry.src.count_eq_planes] at move
  refine ⟨(flat / geometry.dest.plane * geometry.src.plane + target, flat), ?_, move, inside⟩
  unfold route
  dsimp only
  rw [Buffer.getElem?_cells _ inPlanes, Buffer.getElem?_eq_cell (destSize.symm ▸ inside)]
  dsimp only [Option.bind_eq_bind, Option.bind_some]
  rw [found, Option.bind_some, if_pos (by omega)]

/-- Backward adds along the routes of all outputs, once they are known to lie in storage. -/
theorem maxBackward_of_routed [Zero β] [Add β] {count : Nat} {gradient outputGradient : Array β}
    {dest src : Array α} {routes : List (Nat × Nat)} (sourceCells : 0 < geometry.src.plane)
    (cells : 0 < geometry.dest.plane) (size : gradient.size = count * geometry.src.plane)
    (srcSize : src.size = count * geometry.src.plane)
    (routed : (List.range (count * geometry.dest.plane)).mapM
      (route geometry gradient.size (Buffer.cells count (planeAt src geometry.src.plane)) dest) =
        some routes)
    (inside : ∀ move ∈ routes, move.1 < gradient.size ∧ move.2 < outputGradient.size) :
    maxBackward geometry gradient outputGradient dest src =
      some (Buffer.cells gradient.size (Buffer.collected gradient outputGradient routes)) := by
  have planeCount : (gradient.size + geometry.src.plane - 1) / geometry.src.plane = count := by
    rw [size, Nat.add_sub_assoc sourceCells]
    exact place_div (Nat.sub_lt sourceCells Nat.one_pos)
  unfold maxBackward
  dsimp only
  rw [if_neg (by omega), planeCount, planes_eq_some srcSize, Option.bind_eq_bind,
    Option.bind_some, routed]
  exact Buffer.scatterAdd_eq_some inside

/-- The routes of a source and a destination, whatever gradient is then added to. -/
theorem maxBackward_eq_some (admitted : geometry.Admitted) [Zero β] [Add β]
    {outputGradient : Array β} {dest src : Array α}
    (outputSize : outputGradient.size = geometry.dest.count)
    (destSize : dest.size = geometry.dest.count) (srcSize : src.size = geometry.src.count) :
    ∃ routes, ∀ gradient : Array β, gradient.size = geometry.src.count →
      maxBackward geometry gradient outputGradient dest src =
        some (Buffer.cells gradient.size (Buffer.collected gradient outputGradient routes)) := by
  obtain ⟨routes, routed, inside⟩ := Buffer.mapM_of_total
    (fun move : Nat × Nat => move.1 < geometry.src.count ∧ move.2 < geometry.dest.count)
    fun flat member => route_inside admitted src destSize (List.mem_range.mp member)
  rw [admitted.dest_count] at routed
  refine ⟨routes, fun gradient size => ?_⟩
  rw [← size] at routed
  refine maxBackward_of_routed admitted.src_plane_pos admitted.dest_plane_pos
    (size.trans geometry.src.count_eq_planes) (srcSize.trans geometry.src.count_eq_planes) routed
      fun move member => ?_
  rw [size, outputSize]
  exact inside move member

/-- In exact arithmetic backward adds one and the same to whatever its gradient holds. -/
theorem maxBackward_adds (admitted : geometry.Admitted) [AddCommGroup β] {outputGradient : Array β}
    {dest src : Array α} (outputSize : outputGradient.size = geometry.dest.count)
    (destSize : dest.size = geometry.dest.count) (srcSize : src.size = geometry.src.count) :
    ∃ share : Nat → β, ∀ gradient : Array β, gradient.size = geometry.src.count →
      maxBackward geometry gradient outputGradient dest src =
        some (Buffer.cells gradient.size fun i => Buffer.cell gradient i + share i) := by
  obtain ⟨routes, ran⟩ := maxBackward_eq_some admitted outputSize destSize srcSize
  refine ⟨fun i => (routes.map fun move =>
    if move.1 = i then Buffer.cell outputGradient move.2 else 0).sum, fun gradient size => ?_⟩
  rw [ran gradient size]
  exact congrArg some (Buffer.cells_congr fun i _ =>
    Buffer.collected_eq_sum gradient outputGradient routes i)

end

end TensorEngine.Pool

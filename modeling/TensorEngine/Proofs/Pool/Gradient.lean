import Mathlib.Algebra.BigOperators.Ring.Finset
import TensorEngine.Proofs.Pool.Maximum

/-! Where the gradient of pooling goes. Every output sends its share to one element under
its own window, so no plane loses or gains any of it; and where the outputs are those of
forward that element is their source, so backward is the adjoint of forward. -/

set_option autoImplicit false

namespace TensorEngine

section

variable {β : Type} {count cells : Nat} {target : Nat → Nat}

/-- What lands on a place of all that is sent. -/
def landed [AddCommMonoid β] (count : Nat) (target : Nat → Nat) (amount : Nat → β) (i : Nat) : β :=
  ∑ item ∈ Finset.range count, if target item = i then amount item else 0

/-- Weighing what has landed is weighing what is sent by the place it is sent to. -/
theorem sum_landed_mul [NonUnitalNonAssocSemiring β] (inside : ∀ item < count, target item < cells)
    (amount weight : Nat → β) :
    ∑ i ∈ Finset.range cells, landed count target amount i * weight i =
      ∑ item ∈ Finset.range count, amount item * weight (target item) := by
  unfold landed
  simp only [Finset.sum_mul, ite_mul, zero_mul]
  rw [Finset.sum_comm]
  refine Finset.sum_congr rfl fun item member => ?_
  rw [Finset.sum_ite_eq, if_pos (Finset.mem_range.mpr (inside item (Finset.mem_range.mp member)))]

/-- When all items of a block are sent into the block of the same number, that block
receives just what its items carry. -/
theorem sum_landed_block [AddCommMonoid β] {blocks items places block : Nat} {target : Nat → Nat}
    (inBlock : ∀ item < blocks * items, ∃ place < places,
      target item = item / items * places + place)
    (inside : block < blocks) (amount : Nat → β) :
    ∑ place ∈ Finset.range places, landed (blocks * items) target amount (block * places + place) =
      ∑ item ∈ Finset.range items, amount (block * items + item) := by
  have received {number item : Nat} (within : number < blocks) (among : item < items) :
      ∑ place ∈ Finset.range places,
          (if target (number * items + item) = block * places + place
            then amount (number * items + item) else 0) =
        if number = block then amount (number * items + item) else 0 := by
    obtain ⟨there, short, sent⟩ := inBlock (number * items + item) (place_lt within among)
    rw [place_div among] at sent
    rw [sent]
    split
    · rename_i same
      subst same
      simp only [Nat.add_left_cancel_iff]
      rw [Finset.sum_ite_eq, if_pos (Finset.mem_range.mpr short)]
    · rename_i other
      refine Finset.sum_eq_zero fun place member => if_neg fun same => other ?_
      calc number = (number * places + there) / places := (place_div short).symm
        _ = (block * places + place) / places := by rw [same]
        _ = block := place_div (Finset.mem_range.mp member)
  unfold landed
  rw [Finset.sum_comm, sum_range_mul]
  calc _ = ∑ number ∈ Finset.range blocks, ∑ item ∈ Finset.range items,
          (if number = block then amount (number * items + item) else 0) :=
        Finset.sum_congr rfl fun number within => Finset.sum_congr rfl fun item among =>
          received (Finset.mem_range.mp within) (Finset.mem_range.mp among)
    _ = ∑ item ∈ Finset.range items, amount (block * items + item) := by
        rw [Finset.sum_comm]
        refine Finset.sum_congr rfl fun item _ => ?_
        rw [Finset.sum_ite_eq', if_pos (Finset.mem_range.mpr inside)]

end

namespace Pool

variable {α β : Type} {geometry : Geometry}

section

variable [Zero α] [Lowest α] [LT α] [DecidableLT α] [BEq α]

/-- The element that the gradient of an output goes to. -/
def targetOf (geometry : Geometry) (dest src : Array α) (flat : Nat) : Nat :=
  let plane := flat / geometry.dest.plane
  let index := geometry.dest.planePosition flat
  plane * geometry.src.plane +
    ((geometry.gradientTarget (planeAt src geometry.src.plane plane) index.row index.col
    (Buffer.cell dest flat)).getD 0)

variable [LawfulComparison α]

/-- Whatever value it is asked for, the target of a gradient is under the window. -/
theorem Geometry.gradientTarget_covered {plane : Array α} {row col : Nat}
    (size : plane.size = geometry.src.plane)
    (corner : geometry.window.Covers geometry.src.dims row col (row * geometry.window.stride.1)
      (col * geometry.window.stride.2))
    (value : α) :
    ∃ y x, geometry.window.Covers geometry.src.dims row col y x ∧
      geometry.gradientTarget plane row col value = some (y * geometry.src.dims.cols + x) := by
  suffices found : ∃ offset ∈ geometry.corner row col :: geometry.offsets row col,
      geometry.gradientTarget plane row col value = some offset by
    obtain ⟨offset, member, found⟩ := found
    obtain ⟨y, x, covered, rfl⟩ := covers_of_mem_scan corner member
    exact ⟨y, x, covered, found⟩
  unfold gradientTarget
  rw [firstMatch_eq_some size]
  cases search : (geometry.offsets row col).find? fun offset =>
    Buffer.cell plane offset == value with
  | some found => exact ⟨found, List.mem_cons_of_mem _ (List.mem_of_find?_eq_some search), rfl⟩
  | none =>
    have begun : Scanned (Buffer.cell plane) (geometry.corner row col, Lowest.lowest) [] _ :=
      .unmoved nofun
    have scanned := begun.run (geometry.offsets row col)
    exact ⟨_, scanned.mem, by rw [argmax_eq_some size]; rfl⟩

end

/-- Sum over one plane of storage. -/
def planeSum [AddCommMonoid β] (layout : Layout) (value : Nat → β) (plane : Nat) : β :=
  ∑ cell ∈ Finset.range layout.plane, value (plane * layout.plane + cell)

section

variable {window : Window} {src : Layout} (accepted : Geometry.ofLayout window src = .ok geometry)

include accepted

/-- Source and destination have the same planes, also when there are none. -/
theorem dest_count_of_accepted :
    geometry.dest.count = geometry.src.dims.samples * geometry.src.dims.channels *
      geometry.dest.plane := by
  obtain ⟨-, rfl, -, -, dest⟩ := Geometry.ofLayout_eq_ok accepted
  rw [geometry.dest.count_eq_planes, dest]
  unfold Layout.plane
  rw [Layout.dims_ofShape]
  unfold Shape.collapse
  split
  · exact (Nat.mul_zero _).trans (Nat.mul_zero _).symm
  · rfl

variable [Zero α] [Lowest α] [LT α] [DecidableLT α] [BEq α] [LawfulComparison α]
  (rowSize : 0 < window.size.1) (colSize : 0 < window.size.2) (dest source : Array α) {flat : Nat}

include rowSize colSize

/-- The target of an output is in its own plane, under its own window. -/
theorem targetOf_covered (inside : flat < geometry.dest.count) :
    let index := geometry.dest.planePosition flat
    ∃ y x, geometry.window.Covers geometry.src.dims index.row index.col y x ∧
      geometry.gradientTarget (planeAt source geometry.src.plane (flat / geometry.dest.plane))
        index.row index.col (Buffer.cell dest flat) = some (y * geometry.src.dims.cols + x) ∧
      targetOf geometry dest source flat =
        flat / geometry.dest.plane * geometry.src.plane + (y * geometry.src.dims.cols + x) := by
  intro index
  obtain ⟨-, inRows, inCols⟩ := cell_within (dest_count_of_accepted accepted ▸ inside)
  obtain ⟨y, x, covered, found⟩ := Geometry.gradientTarget_covered (Buffer.size_cells ..)
    (Geometry.covers_corner accepted rowSize colSize inRows inCols) (Buffer.cell dest flat)
  exact ⟨y, x, covered, found,
    congrArg (flat / geometry.dest.plane * geometry.src.plane + Option.getD · 0) found⟩

theorem route_eq_targetOf (destSize : dest.size = geometry.dest.count)
    (inside : flat < geometry.dest.count) :
    route geometry geometry.src.count
      (Buffer.cells (geometry.src.dims.samples * geometry.src.dims.channels)
        (planeAt source geometry.src.plane)) dest flat =
          some (targetOf geometry dest source flat, flat) ∧
      targetOf geometry dest source flat < geometry.src.count := by
  obtain ⟨y, x, covered, found, target⟩ :=
    targetOf_covered accepted rowSize colSize dest source inside
  obtain ⟨inPlanes, -, -⟩ := cell_within (dest_count_of_accepted accepted ▸ inside)
  have inPlane : y * geometry.src.dims.cols + x < geometry.src.plane :=
    place_lt (lt_min_iff.mp covered.1.2).2 (lt_min_iff.mp covered.2.2).2
  have inSource := place_lt inPlanes inPlane
  rw [← geometry.src.count_eq_planes] at inSource
  rw [target]
  refine ⟨?_, inSource⟩
  unfold route
  dsimp only
  rw [Buffer.getElem?_cells _ inPlanes, Buffer.getElem?_eq_cell (destSize.symm ▸ inside)]
  dsimp only [Option.bind_eq_bind, Option.bind_some]
  exact (congrArg (· >>= _) found).trans (if_pos (by omega))

/-- Backward adds to every element what is sent there. -/
theorem maxBackward_eq_landed [AddCommGroup β] (destSize : dest.size = geometry.dest.count)
    (sourceSize : source.size = geometry.src.count) {gradient outputGradient : Array β}
    (size : gradient.size = geometry.src.count)
    (outputSize : outputGradient.size = geometry.dest.count) :
    maxBackward geometry gradient outputGradient dest source =
      some (Buffer.cells gradient.size fun i =>
      Buffer.cell gradient i +
        landed geometry.dest.count (targetOf geometry dest source)
          (Buffer.cell outputGradient) i) := by
  have routes {flat : Nat} (inside : flat < geometry.dest.count) :=
    route_eq_targetOf accepted rowSize colSize dest source destSize inside
  have count := dest_count_of_accepted accepted
  by_cases none : geometry.src.plane = 0 ∨ geometry.dest.plane = 0
  · have empty : geometry.dest.count = 0 := by
      rcases none with noSource | noOutput
      · refine Nat.eq_zero_of_not_pos fun some => ?_
        have inSource := (routes some).2
        rw [geometry.src.count_eq_planes, noSource, Nat.mul_zero] at inSource
        exact Nat.not_lt_zero _ inSource
      · rw [count, noOutput, Nat.mul_zero]
    unfold maxBackward landed
    dsimp only
    rw [if_pos none, empty]
    simp only [Finset.range_zero, Finset.sum_empty, add_zero]
    exact congrArg some (Buffer.cells_cell gradient).symm
  · have routed : (List.range geometry.dest.count).mapM (route geometry gradient.size (Buffer.cells
        (geometry.src.dims.samples * geometry.src.dims.channels)
          (planeAt source geometry.src.plane)) dest) =
          some ((List.range geometry.dest.count).map fun flat =>
            (targetOf geometry dest source flat, flat)) :=
      Buffer.mapM_eq_some fun flat member => size ▸ (routes (List.mem_range.mp member)).1
    have planes := geometry.src.count_eq_planes
    rw [count] at routed
    rw [maxBackward_of_routed (by omega) (by omega) (size.trans planes)
      (sourceSize.trans planes) routed, ← count]
    · refine congrArg some (Buffer.cells_congr fun i _ => ?_)
      rw [Buffer.collected_eq_sum, List.map_map]
      rfl
    · intro move member
      obtain ⟨flat, within, rfl⟩ := List.mem_map.mp member
      rw [← count, List.mem_range] at within
      rw [size, outputSize]
      exact ⟨(routes within).2, within⟩

variable {dest source} in
/-- An output of forward is the element that its gradient goes to. -/
theorem cell_targetOf {before : Array α} (stored : maxForward geometry before source = some dest)
    (destSize : dest.size = geometry.dest.count) (sourceSize : source.size = geometry.src.count)
    (inside : flat < geometry.dest.count) :
    Buffer.cell dest flat = Buffer.cell source (targetOf geometry dest source flat) := by
  have count := dest_count_of_accepted accepted
  have plane : 0 < geometry.dest.plane := Nat.pos_of_lt_mul_left (count ▸ inside)
  have picked : ∀ flat < geometry.dest.count, ∃ value offset,
      geometry.PicksOne (planeAt source geometry.src.plane (flat / geometry.dest.plane))
        (geometry.dest.planePosition flat).row
          (geometry.dest.planePosition flat).col value offset := by
    intro flat within
    obtain ⟨-, inRows, inCols⟩ := cell_within (count ▸ within)
    exact Geometry.picksOne (Buffer.size_cells ..)
      (Geometry.covers_corner accepted rowSize colSize inRows inCols)
  choose! value offset picks using picked
  have length : before.size = geometry.dest.count := (size_of_maxForward stored).symm.trans destSize
  have filled : maxForward geometry before source = some (Buffer.cells before.size value) := by
    refine maxForward_eq_some plane (length.trans count)
      (sourceSize.trans geometry.src.count_eq_planes) fun flat within => ?_
    obtain ⟨best, scanned⟩ := (picks flat (length ▸ within)).forward
    exact ⟨_, scanned, (picks flat (length ▸ within)).stored⟩
  have output : Buffer.cell dest flat = value flat := by
    rw [Option.some.inj (stored.symm.trans filled)]
    exact Buffer.cell_cells _ (length ▸ inside)
  have target : targetOf geometry dest source flat =
      flat / geometry.dest.plane * geometry.src.plane + offset flat := by
    unfold targetOf
    dsimp only
    rw [output, (picks flat inside).backward]
    rfl
  have held := (picks flat inside).stored
  have short : offset flat < geometry.src.plane :=
    Nat.lt_of_lt_of_eq (Array.getElem?_eq_some_iff.mp held).1 (Buffer.size_cells ..)
  rw [output, target]
  exact Option.some.inj (held.symm.trans (Buffer.getElem?_cells _ short))

/-- A plane of the source gains what the outputs of the same plane send. -/
theorem planeSum_landed [AddCommMonoid β] (amount : Nat → β) {plane : Nat}
    (inside : plane < geometry.src.dims.samples * geometry.src.dims.channels) :
    planeSum geometry.src
      (landed geometry.dest.count (targetOf geometry dest source) amount) plane =
      planeSum geometry.dest amount plane := by
  have count := dest_count_of_accepted accepted
  unfold planeSum
  rw [count]
  refine sum_landed_block (fun flat within => ?_) inside amount
  obtain ⟨y, x, under, -, target⟩ :=
    targetOf_covered accepted rowSize colSize dest source (count ▸ within)
  exact ⟨_, place_lt (lt_min_iff.mp under.1.2).2 (lt_min_iff.mp under.2.2).2, target⟩

variable {dest source} in
/-- With the outputs of forward, pairing them with what they send is pairing the sources
with what lands there. -/
theorem sum_landed_reading [NonUnitalNonAssocSemiring β] {before : Array α}
    (stored : maxForward geometry before source = some dest)
    (destSize : dest.size = geometry.dest.count) (sourceSize : source.size = geometry.src.count)
    (amount : Nat → β) (reading : α → β) :
    ∑ flat ∈ Finset.range geometry.dest.count, amount flat * reading (Buffer.cell dest flat) =
      ∑ i ∈ Finset.range geometry.src.count,
        landed geometry.dest.count (targetOf geometry dest source) amount i * reading
          (Buffer.cell source i) := by
  have inside : ∀ flat < geometry.dest.count,
      targetOf geometry dest source flat < geometry.src.count := fun flat within =>
    (route_eq_targetOf accepted rowSize colSize dest source destSize within).2
  rw [sum_landed_mul inside amount fun i => reading (Buffer.cell source i)]
  refine Finset.sum_congr rfl fun flat member => ?_
  rw [cell_targetOf accepted rowSize colSize stored destSize sourceSize
    (Finset.mem_range.mp member)]

end

/-- Each output sends its whole share to one element of its own plane under its own window,
whatever the outputs and the sources are. So a plane of the source gains what its outputs
bring; and when the outputs are those of forward, pairing the outputs with what they send
is pairing the sources with what they gain, whatever numbers the floats are read as. -/
theorem gradient_sent_to_sources {window : Window} {src : Layout}
    (accepted : Geometry.ofLayout window src = .ok geometry) (rowSize : 0 < window.size.1)
    (colSize : 0 < window.size.2) {dest source : Array Float32}
    (destSize : dest.size = geometry.dest.count) (sourceSize : source.size = src.count) :
    ∃ target : Nat → Nat,
      (∀ flat < geometry.dest.count, ∃ y x,
        window.Covers src.dims (geometry.dest.planePosition flat).row
          (geometry.dest.planePosition flat).col y x ∧
          target flat = flat / geometry.dest.plane * src.plane + (y * src.dims.cols + x)) ∧
      ∀ {β : Type} [Ring β] (gradient outputGradient : Array β), gradient.size = src.count →
        outputGradient.size = geometry.dest.count →
          ∃ after, maxBackward geometry gradient outputGradient dest source = some after ∧
            after.size = gradient.size ∧
            (∀ i < gradient.size, Buffer.increment gradient after i =
              landed geometry.dest.count target (Buffer.cell outputGradient) i) ∧
            (∀ sample < src.dims.samples, ∀ channel < src.dims.channels,
              planeSum src (Buffer.increment gradient after)
                (sample * src.dims.channels + channel) =
                planeSum geometry.dest (Buffer.cell outputGradient)
                  (sample * src.dims.channels + channel)) ∧
            ∀ before, maxForward geometry before source = some dest → ∀ reading : Float32 → β,
              ∑ flat ∈ Finset.range geometry.dest.count,
                  Buffer.cell outputGradient flat * reading (Buffer.cell dest flat) =
                ∑ i ∈ Finset.range src.count,
                  Buffer.increment gradient after i * reading (Buffer.cell source i) := by
  obtain ⟨rfl, rfl, -, -, -⟩ := Geometry.ofLayout_eq_ok accepted
  refine ⟨targetOf geometry dest source, fun flat within => ?_,
    fun gradient outputGradient size outputSize => ?_⟩
  · obtain ⟨y, x, under, -, target⟩ := targetOf_covered accepted rowSize colSize dest source within
    exact ⟨y, x, under, target⟩
  · have ran :=
      maxBackward_eq_landed accepted rowSize colSize dest source destSize sourceSize size outputSize
    let gain :=
      landed geometry.dest.count (targetOf geometry dest source) (Buffer.cell outputGradient)
    have gained : ∀ i < gradient.size, Buffer.increment gradient
        (Buffer.cells gradient.size fun j => Buffer.cell gradient j + gain j) i = gain i :=
      fun i within => Buffer.increment_cells gain within
    refine ⟨_, ran, Buffer.size_cells .., gained, ?_, ?_⟩
    · intro sample inSamples channel inChannels
      have inPlanes := place_lt inSamples inChannels
      rw [← planeSum_landed accepted rowSize colSize dest source
        (Buffer.cell outputGradient) inPlanes]
      refine Finset.sum_congr rfl fun cell member => gained _ ?_
      rw [size, geometry.src.count_eq_planes]
      exact place_lt inPlanes (Finset.mem_range.mp member)
    · intro before stored reading
      rw [sum_landed_reading accepted rowSize colSize stored destSize sourceSize
        (Buffer.cell outputGradient) reading]
      refine Finset.sum_congr rfl fun i member => ?_
      rw [gained i (Nat.lt_of_lt_of_eq (Finset.mem_range.mp member) size.symm)]

theorem gradient_sent_to_sources_overlapping :
    let window : Window := ⟨(1, 3), (1, 2)⟩
    let src := Layout.ofShape ⟨1, 2, 1, 4⟩
    let geometry : Geometry := ⟨window, src, Layout.ofShape ⟨1, 2, 1, 2⟩⟩
    let nan := Float32.ofBits 0x7fc00000
    let source : Array Float32 := #[1, 5, 5, 2, nan, 7, -0, 0]
    let gradient : Array Int := #[10, 20, 30, 40, 50, 60, 70, 80]
    let strange : Array Float32 := #[nan, 9, 7, 0]
    let pooled : Array Float32 := #[5, 5, 7, -0]
    (∃ after, maxBackward geometry gradient #[1, 2, 3, 4] strange source = some after ∧
      after.size = 8 ∧
      planeSum src (Buffer.increment gradient after) 1 = planeSum geometry.dest
        (Buffer.cell #[1, 2, 3, 4]) 1) ∧
    ∃ after, maxBackward geometry gradient #[1, 2, 3, 4] pooled source = some after ∧
      ∀ reading : Float32 → Int,
        ∑ flat ∈ Finset.range geometry.dest.count,
          Buffer.cell #[1, 2, 3, 4] flat * reading (Buffer.cell pooled flat) =
          ∑ i ∈ Finset.range src.count,
            Buffer.increment gradient after i * reading (Buffer.cell source i) := by
  intro window src geometry nan source gradient strange pooled
  have accepted : Geometry.ofLayout ⟨(1, 3), (1, 2)⟩ (Layout.ofShape ⟨1, 2, 1, 4⟩) =
      .ok geometry := by rfl
  have stored : maxForward geometry #[0, 0, 0, 0] source = some pooled := by decide +kernel
  have sourceSize : source.size = src.count := by decide
  constructor
  · obtain ⟨target, -, sends⟩ := gradient_sent_to_sources accepted (by decide) (by decide)
      (show strange.size = geometry.dest.count by decide) sourceSize
    obtain ⟨after, ran, size, -, planes, -⟩ := sends gradient #[1, 2, 3, 4] (by decide) (by decide)
    exact ⟨after, ran, size, planes 0 (by decide) 1 (by decide)⟩
  · obtain ⟨target, -, sends⟩ := gradient_sent_to_sources accepted (by decide) (by decide)
      (show pooled.size = geometry.dest.count by decide) sourceSize
    obtain ⟨after, ran, -, -, -, pairs⟩ := sends gradient #[1, 2, 3, 4] (by decide) (by decide)
    exact ⟨after, ran, pairs #[0, 0, 0, 0] stored⟩

end Pool

end TensorEngine

import Mathlib.Data.List.Forall2
import TensorEngine.Elementwise
import TensorEngine.Proofs.Layout
import TensorEngine.Proofs.Storage

/-! Broadcasting addition and channel sums on storage that has the elements of its
layout. Both always answer; without a beta the previous contents are not read, and a
channel sum is added to whatever is there. -/

set_option autoImplicit false

namespace TensorEngine.Elementwise

variable {α : Type}

theorem broadcasts_iff {dest src : Shape} :
    broadcasts dest src = true ↔
      List.Forall₂ (fun dest src => dest = src ∨ src = 1) dest.toList src.toList := by
  simp [broadcasts, matchesDim, Shape.toList, and_assoc]

-- A source position exists for every position of the destination.
theorem broadcastIndex_within {dest src : Shape} (compatible : broadcasts dest src = true)
    {index : Index} (within : index.Within dest) : (broadcastIndex src index).Within src := by
  obtain ⟨sample, channel, row, col⟩ := within
  unfold broadcasts matchesDim at compatible
  simp only [Bool.and_eq_true, Bool.or_eq_true, decide_eq_true_eq] at compatible
  obtain ⟨⟨⟨samples, channels⟩, rows⟩, cols⟩ := compatible
  have coord : ∀ {extent limit position : Nat}, limit = extent ∨ extent = 1 → position < limit →
      broadcastCoord extent position < extent := by
    intro extent limit position same inside
    unfold broadcastCoord
    split <;> omega
  exact ⟨coord samples sample, coord channels channel, coord rows row, coord cols col⟩

section

variable [Zero α] [Add α] [Mul α] [BEq α] {beta alpha : α} {dest src : Array α}
  {destLayout srcLayout : Layout}

variable (beta alpha) in
theorem addScaled_eq_ok (destSize : dest.size = destLayout.count)
    (srcSize : src.size = srcLayout.count)
    (compatible : broadcasts destLayout.dims srcLayout.dims = true) :
    addScaled beta dest destLayout alpha src srcLayout = .ok (Buffer.cells dest.size fun flat =>
      blend beta (Buffer.cell dest flat) alpha (Buffer.read srcLayout src
        (broadcastIndex srcLayout.dims (destLayout.planePosition flat)))) := by
  unfold addScaled
  rw [(Buffer.fitsLayout_eq_ok_iff _ _).mpr destSize, (Buffer.fitsLayout_eq_ok_iff _ _).mpr srcSize]
  dsimp only [Bind.bind, Except.bind]
  rw [if_pos compatible]
  refine congrArg Except.ok (Buffer.eq_cells Array.size_mapIdx fun flat inside => ?_)
  simp [Buffer.cell, Buffer.read, inside]

variable (beta alpha) in
theorem addScaled_answers (destSize : dest.size = destLayout.count)
    (srcSize : src.size = srcLayout.count)
    (compatible : broadcasts destLayout.dims srcLayout.dims = true) :
    ∃ result, addScaled beta dest destLayout alpha src srcLayout = .ok result ∧
      result.size = dest.size :=
  ⟨_, addScaled_eq_ok beta alpha destSize srcSize compatible, Buffer.size_cells ..⟩

/-- An element of the sum in terms of the two positions it is made from. -/
theorem read_addScaled (rowMajor : destLayout.RowMajor) (destSize : dest.size = destLayout.count)
    (srcSize : src.size = srcLayout.count) {result : Array α}
    (ran : addScaled beta dest destLayout alpha src srcLayout = .ok result)
    (compatible : broadcasts destLayout.dims srcLayout.dims = true) {index : Index}
    (within : index.Within destLayout.dims) :
    Buffer.read destLayout result index = blend beta (Buffer.read destLayout dest index) alpha
      (Buffer.read srcLayout src (broadcastIndex srcLayout.dims index)) := by
  have inside : destLayout.offset index < dest.size := destSize ▸ rowMajor.offset_lt within
  obtain rfl :=
    Except.ok.inj ((addScaled_eq_ok beta alpha destSize srcSize compatible).symm.trans ran)
  unfold Buffer.read
  rw [Buffer.cell_cells _ inside, rowMajor.planePosition_eq, rowMajor.position_offset within]

theorem addScaled_congr {other : Array α} (none : (beta == 0) = true)
    (size : dest.size = other.size) :
    addScaled beta dest destLayout alpha src srcLayout =
      addScaled beta other destLayout alpha src srcLayout := by
  have same : ∀ value : Nat → α, (dest.mapIdx fun flat old => blend beta old alpha (value flat)) =
      other.mapIdx fun flat old => blend beta old alpha (value flat) := by
    intro value
    unfold blend
    simp only [none, if_true]
    exact Array.ext (by simp [size]) fun i _ _ => by simp
  have fits : Buffer.fitsLayout dest destLayout = Buffer.fitsLayout other destLayout := by
    unfold Buffer.fitsLayout
    rw [size]
  unfold addScaled
  rw [fits, same fun flat => src.getD (srcLayout.offset (broadcastIndex srcLayout.dims
    (destLayout.planePosition flat))) 0]

end

theorem addChannelSums_eq_ok [Zero α] [Add α] {dest values : Array α} {layout : Layout}
    (size : values.size = layout.count) (destSize : dest.size = layout.dims.channels) :
    addChannelSums dest values layout =
      .ok (Buffer.cells dest.size fun channel =>
        Buffer.cell dest channel + channelSum values layout channel) := by
  unfold addChannelSums
  rw [(Buffer.fitsLayout_eq_ok_iff _ _).mpr size]
  dsimp only [Bind.bind, Except.bind]
  rw [if_pos destSize]
  refine congrArg Except.ok (Buffer.eq_cells Array.size_mapIdx fun channel inside => ?_)
  simp [Buffer.cell, inside]

end TensorEngine.Elementwise

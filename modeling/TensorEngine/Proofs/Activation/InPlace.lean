import TensorEngine.Proofs.Activation
import TensorEngine.Proofs.Activation.Lane
import TensorEngine.Proofs.Schedule

/-! Activations in place. A kernel overwrites a lane, or a single cell, by sweeps; each
sum or maximum is taken before the cells that it reads are overwritten. Lanes lie apart,
so the result is that of the inputs, in any order of the lanes. -/

set_option autoImplicit false

namespace TensorEngine.Activation

open Buffer

variable {α : Type}

/-- Where the elements of all channels at one location lie. -/
def laneOffsets (layout : Layout) (sample row col : Nat) : List Nat :=
  (List.range layout.dims.channels).map fun channel => layout.offset ⟨sample, channel, row, col⟩

/-- The lanes of a layout, one for each location. -/
def lanes (layout : Layout) : List (List Nat) :=
  (List.range (layout.dims.samples * layout.plane)).map fun location =>
    laneOffsets layout (location / layout.plane) (location % layout.plane / layout.dims.cols)
      (location % layout.plane % layout.dims.cols)

/-- Every cell on its own. -/
def singles (layout : Layout) : List (List Nat) := (List.range layout.count).map fun i => [i]

/-- The cells that an activation takes together: a lane, or a cell on its own. -/
def groups (activation : Activation) (layout : Layout) : List (List Nat) :=
  match activation with
  | softmax => lanes layout
  | sigmoid | relu | tanh => singles layout

section

variable {layout : Layout} (rowMajor : layout.RowMajor)

theorem singles_disjoint (layout : Layout) : (singles layout).Pairwise List.Disjoint :=
  List.pairwise_map.mpr (List.nodup_range.imp fun different => by simpa [eq_comm] using different)

theorem mem_singles {i : Nat} : [i] ∈ singles layout ↔ i < layout.count := by
  simp [singles]

theorem mem_laneOffsets {sample row col i : Nat} :
    i ∈ laneOffsets layout sample row col ↔
      ∃ channel < layout.dims.channels, layout.offset ⟨sample, channel, row, col⟩ = i := by
  simp [laneOffsets]

theorem mem_lanes {sample row col : Nat} (inSamples : sample < layout.dims.samples)
    (inRows : row < layout.dims.rows) (inCols : col < layout.dims.cols) :
    laneOffsets layout sample row col ∈ lanes layout := by
  have inPlane : row * layout.dims.cols + col < layout.plane := place_lt inRows inCols
  refine List.mem_map.mpr ⟨sample * layout.plane + (row * layout.dims.cols + col), ?_, ?_⟩
  · exact List.mem_range.mpr (place_lt inSamples inPlane)
  · rw [place_div inPlane, place_mod inPlane, place_div inCols, place_mod inCols]

-- A location is read off its number, so no two locations have one number.
theorem location_within {location channel : Nat}
    (inside : location < layout.dims.samples * layout.plane)
    (inChannels : channel < layout.dims.channels) :
    (⟨location / layout.plane, channel, location % layout.plane / layout.dims.cols,
      location % layout.plane % layout.dims.cols⟩ : Index).Within layout.dims := by
  have plane : 0 < layout.plane := Nat.pos_of_mul_pos_left (Nat.zero_lt_of_lt inside)
  have cols : 0 < layout.dims.cols := Nat.pos_of_mul_pos_left plane
  refine ⟨Nat.div_lt_of_lt_mul (Nat.mul_comm .. ▸ inside), inChannels, ?_, Nat.mod_lt _ cols⟩
  exact Nat.div_lt_of_lt_mul (Nat.mul_comm .. ▸ Nat.mod_lt location plane)

include rowMajor

-- The offsets of a lane are told apart by their channels.
theorem nodup_laneOffsets {sample row col : Nat}
    (within : ∀ channel < layout.dims.channels,
      (⟨sample, channel, row, col⟩ : Index).Within layout.dims) :
    (laneOffsets layout sample row col).Nodup := by
  refine List.Nodup.map_on (fun one first other second same => ?_) List.nodup_range
  have indices := (rowMajor.offset_injective (within one (List.mem_range.mp first))
    (within other (List.mem_range.mp second))).mp same
  exact (Index.mk.inj indices).2.1

theorem idxOf_laneOffsets {index : Index} (within : index.Within layout.dims) :
    (laneOffsets layout index.sample index.row index.col).idxOf (layout.offset index) =
      index.channel := by
  obtain ⟨sample, channel, row, col⟩ := index
  obtain ⟨inSamples, inChannels, inRows, inCols⟩ := within
  have nodup := nodup_laneOffsets rowMajor fun channel inside => ⟨inSamples, inside, inRows, inCols⟩
  have place : channel < (laneOffsets layout sample row col).length := by
    simpa [laneOffsets] using inChannels
  simpa [laneOffsets] using nodup.idxOf_getElem channel place

theorem lanes_disjoint : (lanes layout).Pairwise List.Disjoint := by
  refine List.pairwise_map.mpr
    (List.nodup_range.imp_of_mem fun {first second} inFirst inSecond different => ?_)
  intro i one other
  obtain ⟨channel, inChannels, here⟩ := mem_laneOffsets.mp one
  obtain ⟨otherChannel, inOther, there⟩ := mem_laneOffsets.mp other
  have indices :=
    (rowMajor.offset_injective (location_within (List.mem_range.mp inFirst) inChannels)
    (location_within (List.mem_range.mp inSecond) inOther)).mp (here.trans there.symm)
  obtain ⟨samples, -, rows, cols⟩ := Index.mk.inj indices
  have cells : first % layout.plane = second % layout.plane := by
    rw [← Nat.div_add_mod' (first % layout.plane) layout.dims.cols, rows, cols, Nat.div_add_mod']
  apply different
  rw [← Nat.div_add_mod' first layout.plane, samples, cells, Nat.div_add_mod']

theorem group_inside {activation : Activation} {group : List Nat}
    (listed : group ∈ activation.groups layout) :
    group.Nodup ∧ ∀ i ∈ group, i < layout.count := by
  have single (listed : group ∈ singles layout) : group.Nodup ∧ ∀ i ∈ group, i < layout.count := by
    obtain ⟨i, inside, rfl⟩ := List.mem_map.mp listed
    exact ⟨List.nodup_singleton i,
      fun j same => List.mem_singleton.mp same ▸ List.mem_range.mp inside⟩
  cases activation with
  | softmax =>
    obtain ⟨location, inside, rfl⟩ := List.mem_map.mp listed
    have within (channel : Nat) (inChannels : channel < layout.dims.channels) :=
      location_within (List.mem_range.mp inside) inChannels
    refine ⟨nodup_laneOffsets rowMajor within, fun i member => ?_⟩
    obtain ⟨channel, inChannels, rfl⟩ := mem_laneOffsets.mp member
    exact rowMajor.offset_lt (within channel inChannels)
  | sigmoid => exact single listed
  | relu => exact single listed
  | tanh => exact single listed

end

section

variable [Zero α]

/-- What an activation makes of the elements of a group. -/
def groupOutputs [One α] [Add α] [Sub α] [Neg α] [Div α] [LT α] [LE α] [DecidableLT α]
    [DecidableLE α] [Elementary α] (activation : Activation) (layout : Layout)
    (inputs : List α) : List α :=
  match activation with
  | softmax => laneSoftmax (adjacentLanes layout) inputs
  | sigmoid => inputs.map logistic
  | relu => inputs.map rectify
  | tanh => inputs.map Elementary.tanh

/-- What a gradient makes of the gradients of a group and its outputs. -/
def groupGradients [One α] [Add α] [Sub α] [Mul α] [LE α] [DecidableLE α] (activation : Activation)
    (layout : Layout) (outputs gradients : List α) : List α :=
  match activation with
  | softmax => laneSoftmaxGradient (adjacentLanes layout) outputs gradients
  | sigmoid => List.zipWith logisticGradient outputs gradients
  | relu => List.zipWith rectifyGradient outputs gradients
  | tanh => List.zipWith tanhGradient outputs gradients

variable {layout : Layout} {compute : List Nat → List α → List α} {storage : Array α}
  (size : storage.size = layout.count) {schedule : List (List Nat)}

include size

theorem overwriteGroups_lanes (rowMajor : layout.RowMajor) (ordered : schedule.Perm (lanes layout))
    {newLane : Nat → Nat → Nat → List α}
    (lanewise : ∀ sample row col, compute (laneOffsets layout sample row col)
      (lane storage layout sample row col) = newLane sample row col) :
    overwriteGroups compute storage schedule = ofLanes layout newLane := by
  have disjoint := (ordered.pairwise_iff List.disjoint_symm).mpr (lanes_disjoint rowMajor)
  refine overwriteGroups_eq disjoint (by rw [size]; exact Array.size_ofFn) fun i inside => ?_
  rw [size] at inside
  let index := layout.position i
  have within : index.Within layout.dims := rowMajor.position_within inside
  have place : layout.offset index = i := rowMajor.offset_position i
  refine ⟨laneOffsets layout index.sample index.row index.col, ?_, ?_, ?_⟩
  · exact ordered.mem_iff.mpr (mem_lanes within.1 within.2.2.1 within.2.2.2)
  · exact mem_laneOffsets.mpr ⟨index.channel, within.2.1, place⟩
  · have read := read_ofLanes rowMajor newLane within
    have lane_read : (laneOffsets layout index.sample index.row index.col).map (cell storage) =
        lane storage layout index.sample index.row index.col := List.map_map
    have channel := idxOf_laneOffsets rowMajor within
    unfold Buffer.read at read
    rw [place] at read channel
    rw [read, lane_read, lanewise, channel]

theorem overwriteGroups_singles {rule : Nat → α → α} {result : Array α}
    (resultSize : result.size = storage.size) (ordered : schedule.Perm (singles layout))
    (single : ∀ i, compute [i] [cell storage i] = [rule i (cell storage i)])
    (each : ∀ i < storage.size, cell result i = rule i (cell storage i)) :
    overwriteGroups compute storage schedule = result := by
  have disjoint := (ordered.pairwise_iff List.disjoint_symm).mpr (singles_disjoint layout)
  refine overwriteGroups_eq disjoint resultSize fun i inside => ⟨[i], ?_, by simp, ?_⟩
  · exact ordered.mem_iff.mpr (mem_singles.mpr (size ▸ inside))
  · rw [each i inside, List.map_singleton, single]
    simp

end

section

variable {layout : Layout} (rowMajor : layout.RowMajor)

include rowMajor

variable [Zero α] [One α] [Add α] [Sub α] [LE α] [DecidableLE α] (activation : Activation)
  {schedule : List (List Nat)} (ordered : schedule.Perm (activation.groups layout))

include ordered

/-- The outputs are those of any schedule that overwrites the inputs group by group. -/
theorem apply_of_schedule [Neg α] [Div α] [LT α] [DecidableLT α] [Elementary α] {inputs : Array α}
    (size : inputs.size = layout.count) :
    activation.apply inputs layout =
      .ok (overwriteGroups (fun _ => activation.groupOutputs layout) inputs schedule) := by
  have mapped (f : α → α) (compute : List α → List α) (same : ∀ value, compute [value] = [f value])
      (ordered : schedule.Perm (singles layout)) :
      overwriteGroups (fun _ => compute) inputs schedule = inputs.map f :=
    overwriteGroups_singles size (by simp) ordered (fun i => same _) fun i inside =>
      by simp [cell, inside]
  cases activation with
  | softmax =>
    rw [apply_softmax size]
    refine congrArg Except.ok
      (overwriteGroups_lanes size rowMajor ordered fun sample row col => ?_).symm
    rfl
  | sigmoid =>
    exact congrArg Except.ok (mapped logistic (List.map logistic) (fun _ => rfl) ordered).symm
  | relu => exact congrArg Except.ok (mapped rectify (List.map rectify) (fun _ => rfl) ordered).symm
  | tanh =>
    exact congrArg Except.ok
      (mapped Elementary.tanh (List.map Elementary.tanh) (fun _ => rfl) ordered).symm

/-- The gradients are those of any schedule that overwrites what they are made from group by
group. -/
theorem gradient_of_schedule [Mul α] {gradients outputs : Array α}
    (size : gradients.size = layout.count) (outputsSize : outputs.size = layout.count) :
    activation.gradient gradients outputs layout =
      .ok (overwriteGroups
        (fun group => activation.groupGradients layout (group.map (cell outputs))) gradients
        schedule) := by
  have same := size.trans outputsSize.symm
  have zipped (rule : α → α → α) (ordered : schedule.Perm (singles layout)) :
      zipGradient rule gradients outputs =
        .ok (overwriteGroups (fun group => List.zipWith rule (group.map (cell outputs))) gradients
          schedule) := by
    unfold zipGradient
    rw [if_pos same]
    refine congrArg Except.ok
      (overwriteGroups_singles size (by simp [same]) ordered (fun i => rfl) ?_).symm
    exact fun i inside => by simp [cell, inside, same ▸ inside]
  cases activation with
  | softmax =>
    rw [gradient_softmax size outputsSize]
    refine congrArg Except.ok
      (overwriteGroups_lanes size rowMajor ordered fun sample row col => ?_).symm
    unfold groupGradients laneOffsets
    rw [List.map_map]
    rfl
  | sigmoid => exact zipped logisticGradient ordered
  | relu => exact zipped rectifyGradient ordered
  | tanh => exact zipped tanhGradient ordered

end

/-! The kernels themselves, sweep by sweep. -/

section

variable [Zero α] [One α] [Add α] [Sub α] [LE α] [DecidableLE α]

/-- An activation on one group in place. A lane is overwritten by its weights once its
greatest element is known, and by its shares once the sum of the weights is. -/
def overwriteOutputs [Neg α] [Div α] [LT α] [DecidableLT α] [Elementary α] (activation : Activation)
    (layout : Layout) (storage : Array α) (group : List Nat) : Array α :=
  match activation with
  | softmax =>
    let weighted := sweep peak
      (fun greatest _ value => Elementary.exp (greatest.elim value (value - ·))) storage group
    sweep (fun weights => sumRun (adjacentLanes layout) weights.length fun i => weights.getD i 0)
      (fun total _ weight => weight / total) weighted group
  | sigmoid => sweep (fun _ => ()) (fun _ _ value => logistic value) storage group
  | relu => sweep (fun _ => ()) (fun _ _ value => rectify value) storage group
  | tanh => sweep (fun _ => ()) (fun _ _ value => Elementary.tanh value) storage group

/-- A gradient on one group in place. The sum over a lane is taken before the lane is
overwritten. -/
def overwriteGradients [Mul α] (activation : Activation) (layout : Layout)
    (outputs storage : Array α) (group : List Nat) : Array α :=
  match activation with
  | softmax =>
    sweep (fun gradients => sumRun (adjacentLanes layout) group.length fun i =>
        gradients.getD i 0 * (group.map (cell outputs)).getD i 0)
      (fun total i gradient => cell outputs i * (gradient - total)) storage group
  | sigmoid => sweep (fun _ => ()) (fun _ i => logisticGradient (cell outputs i)) storage group
  | relu => sweep (fun _ => ()) (fun _ i => rectifyGradient (cell outputs i)) storage group
  | tanh => sweep (fun _ => ()) (fun _ i => tanhGradient (cell outputs i)) storage group

variable {layout : Layout} {storage : Array α} {group : List Nat} (nodup : group.Nodup)

include nodup

theorem overwriteOutputs_eq [Neg α] [Div α] [LT α] [DecidableLT α] [Elementary α]
    (activation : Activation) (inside : ∀ i ∈ group, i < storage.size) :
    activation.overwriteOutputs layout storage group =
      overwriteGroup (fun _ => activation.groupOutputs layout) storage group := by
  have mapped (f : α → α) : sweep (fun _ => ()) (fun _ _ value => f value) storage group =
      replaceAt storage group ((group.map (cell storage)).map f) := by
    rw [sweep_eq _ _ _ nodup, List.map_map]
    rfl
  cases activation with
  | softmax =>
    let weights := laneWeights (group.map (cell storage))
    let total := sumRun (adjacentLanes layout) weights.length fun i => weights.getD i 0
    have weighted : sweep peak
        (fun greatest _ value => Elementary.exp (greatest.elim value (value - ·))) storage group =
          replaceAt storage group weights := by
      rw [sweep_eq _ _ _ nodup]
      simp only [weights, laneWeights, List.map_map]
      cases peak (group.map (cell storage)) with
      | none => rfl
      | some greatest => rfl
    have read : group.map (cell (replaceAt storage group weights)) = weights :=
      map_cell_replaceAt nodup inside (by simp [weights, laneWeights])
    have shares : group.map (fun i => cell (replaceAt storage group weights) i / total) =
        weights.map (· / total) := by
      rw [← read, List.map_map, read]
      rfl
    unfold overwriteOutputs
    dsimp only
    rw [weighted, sweep_eq _ _ _ nodup, read, replaceAt_replaceAt]
    exact congrArg (replaceAt storage group) shares
  | sigmoid => exact mapped logistic
  | relu => exact mapped rectify
  | tanh => exact mapped Elementary.tanh

theorem overwriteGradients_eq [Mul α] (activation : Activation) (outputs : Array α) :
    activation.overwriteGradients layout outputs storage group =
      overwriteGroup (fun group => activation.groupGradients layout (group.map (cell outputs)))
        storage group := by
  have zipped {β : Type} (reduce : List α → β) (rule : β → α → α → α) :
      sweep reduce (fun reduced i => rule reduced (cell outputs i)) storage group =
        replaceAt storage group
        (List.zipWith (rule (reduce (group.map (cell storage)))) (group.map (cell outputs))
          (group.map (cell storage))) := by
    rw [sweep_eq _ _ _ nodup, List.zipWith_map, List.zipWith_self]
  cases activation with
  | softmax =>
    unfold overwriteGradients overwriteGroup groupGradients laneSoftmaxGradient
    dsimp only
    rw [List.length_map]
    exact zipped _ fun total output gradient => output * (gradient - total)
  | sigmoid => exact zipped (fun _ => ()) fun _ => logisticGradient
  | relu => exact zipped (fun _ => ()) fun _ => rectifyGradient
  | tanh => exact zipped (fun _ => ()) fun _ => tanhGradient

end

section

variable {layout : Layout} (rowMajor : layout.RowMajor) [Zero α] [One α] [Add α] [Sub α] [LE α]
  [DecidableLE α] (activation : Activation) {schedule : List (List Nat)}
  (ordered : schedule.Perm (activation.groups layout))

include rowMajor ordered

/-- An activation in place, group after group in any order, leaves the outputs of the inputs. -/
theorem apply_in_place [Neg α] [Div α] [LT α] [DecidableLT α] [Elementary α] {inputs : Array α}
    (size : inputs.size = layout.count) :
    activation.apply inputs layout =
      .ok (schedule.foldl (activation.overwriteOutputs layout) inputs) := by
  rw [activation.apply_of_schedule rowMajor ordered size]
  refine congrArg Except.ok
    (foldl_eq_overwriteGroups (fun storage fits group listed => ?_) size).symm
  obtain ⟨nodup, inside⟩ := group_inside rowMajor (ordered.mem_iff.mp listed)
  exact overwriteOutputs_eq nodup activation (fits ▸ inside)

/-- A gradient in place, group after group in any order, leaves the gradients of the
original ones. -/
theorem gradient_in_place [Mul α] {gradients outputs : Array α}
    (size : gradients.size = layout.count) (outputsSize : outputs.size = layout.count) :
    activation.gradient gradients outputs layout =
      .ok (schedule.foldl (activation.overwriteGradients layout outputs) gradients) := by
  rw [activation.gradient_of_schedule rowMajor ordered size outputsSize]
  refine congrArg Except.ok (foldl_eq_overwriteGroups (fun storage _ group listed => ?_) size).symm
  obtain ⟨nodup, -⟩ := group_inside rowMajor (ordered.mem_iff.mp listed)
  exact overwriteGradients_eq nodup activation outputs

end

end TensorEngine.Activation

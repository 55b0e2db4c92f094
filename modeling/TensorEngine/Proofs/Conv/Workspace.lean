import TensorEngine.Conv.Kernel
import TensorEngine.Proofs.Conv.Plan
import TensorEngine.Proofs.Matrix

/-! Workspaces are scratch. A lowered pass fills its workspace before it reads it, for
every sample anew, so what an earlier run left there cannot be told from the result.
Nothing is assumed of the scalars, and of the operands not even their lengths. A workspace
may be too short, but not too long. -/

set_option autoImplicit false

namespace TensorEngine

variable {α : Type}

namespace Buffer

-- A block as long as its target replaces all of it.
theorem overwrite_whole {target block : Array α} (size : block.size = target.size) :
    overwrite target 0 block = block := by
  apply Array.ext
  · rw [size_overwrite, size]
  · intro i inside within
    have found := getElem?_overwrite target 0 block i (by simpa using inside)
    rw [Array.getElem?_eq_getElem inside] at found
    simpa [within] using Option.some.inj found

end Buffer

namespace Conv

variable {geometry : Geometry} {first second : Array α}

theorem size_of_lower [Zero α] {data columns : Array α} {sample : Nat}
    (lowered : lower geometry data sample = some columns) :
    columns.size = geometry.columnRows * geometry.columnCols :=
  Buffer.size_of_tabulate lowered

section

variable (same : first.size = second.size)
  (within : first.size ≤ geometry.columnRows * geometry.columnCols)

include same within

-- Workspaces that are too short for a column matrix are both refused.
theorem fillWorkspace_congr {columns : Array α}
    (size : columns.size = geometry.columnRows * geometry.columnCols) :
    fillWorkspace geometry first columns = fillWorkspace geometry second columns := by
  unfold fillWorkspace
  rw [← same]
  split
  · rename_i room
    have whole : columns.size = first.size := size.trans (Nat.le_antisymm room within)
    rw [Buffer.overwrite_whole whole, Buffer.overwrite_whole (whole.trans same)]
  · rfl

variable [Zero α] [One α] [MatrixProduct α] (target : Array α) (sample : Nat)

theorem forwardSample_congr (data filters : Array α) :
    forwardSample geometry data filters ⟨target, first⟩ sample =
      forwardSample geometry data filters ⟨target, second⟩ sample := by
  unfold forwardSample
  cases lowered : lower geometry data sample with
  | none => rfl
  | some columns =>
    dsimp only [Option.bind_eq_bind, Option.bind_some]
    rw [fillWorkspace_congr same within (size_of_lower lowered)]

theorem filterGradientSample_congr (outputGradient data : Array α) :
    filterGradientSample geometry outputGradient data ⟨target, first⟩ sample =
      filterGradientSample geometry outputGradient data ⟨target, second⟩ sample := by
  unfold filterGradientSample
  cases lowered : lower geometry data sample with
  | none => rfl
  | some columns =>
    dsimp only [Option.bind_eq_bind, Option.bind_some]
    rw [fillWorkspace_congr same within (size_of_lower lowered)]

-- Here the workspace is the target of the product, which does not read it.
theorem dataGradientSample_congr [Add α] [MatrixProduct.Assigning α]
    (outputGradient filters : Array α) :
    dataGradientSample geometry outputGradient filters ⟨target, first⟩ sample =
      dataGradientSample geometry outputGradient filters ⟨target, second⟩ sample := by
  have product :=
    fun (weights : Entries α geometry.output.dims.channels geometry.columnRows) share =>
      MatrixProduct.Assigning.multiplyAdd_zero 1 (Entries.transpose weights) share
        (Entries.view first 0 geometry.columnRows geometry.columnCols)
      (Entries.view second 0 geometry.columnRows geometry.columnCols)
  have filled := fun entries : Entries α geometry.columnRows geometry.columnCols =>
    fillWorkspace_congr same within entries.size_toStorage
  unfold dataGradientSample
  by_cases room : geometry.columnRows * geometry.columnCols ≤ first.size
  · simp only [Entries.ofStorage?_eq_some room, Entries.ofStorage?_eq_some (same ▸ room),
      Option.bind_eq_bind, Option.bind_some, product, filled]
  · have short : ¬ geometry.columnRows * geometry.columnCols ≤ second.size := same ▸ room
    simp only [Entries.ofStorage?_eq_none room, Entries.ofStorage?_eq_none short,
      Option.bind_eq_bind, Option.bind_none]

end

-- The first sample makes the workspaces equal, and without samples nothing is read.
theorem overSamples_congr {step : Written α → Nat → Option (Written α)} {target : Array α}
    (each : ∀ sample, step ⟨target, first⟩ sample = step ⟨target, second⟩ sample) :
    (overSamples geometry step ⟨target, first⟩).map Written.target =
      (overSamples geometry step ⟨target, second⟩).map Written.target := by
  unfold overSamples
  cases List.range geometry.data.dims.samples with
  | nil => rfl
  | cons sample rest => rw [List.foldlM_cons, List.foldlM_cons, each]

/-- Two runs that answer alike and leave the same target. -/
def Run.SameResult (one other : Run α) : Prop :=
  one.answer = other.answer ∧ one.target = other.target

theorem Run.sameResult_ofWritten {before other : Written α} {written rest : Option (Written α)}
    (same : before.target = other.target)
    (targets : written.map Written.target = rest.map Written.target) :
    Run.SameResult (.ofWritten before written) (.ofWritten other rest) := by
  cases written with
  | none =>
    cases rest with
    | none => exact ⟨rfl, same⟩
    | some _ => cases targets
  | some _ =>
    cases rest with
    | none => cases targets
    | some _ => exact ⟨rfl, Option.some.inj targets⟩

variable [Zero α] [One α] [Add α] [MatrixProduct α] [MatrixProduct.Assigning α]

theorem runLowered_congr (pass : Pass) (target left right : Array α)
    (same : first.size = second.size)
    (within : first.size ≤ geometry.columnRows * geometry.columnCols) :
    Run.SameResult (runLowered pass geometry target first left right)
      (runLowered pass geometry target second left right) := by
  unfold runLowered
  cases pass with
  | forward =>
    dsimp only
    split
    · exact ⟨rfl, rfl⟩
    · exact Run.sameResult_ofWritten rfl
        (overSamples_congr fun sample => forwardSample_congr same within target sample left right)
  | backwardData =>
    dsimp only
    split
    · exact ⟨rfl, rfl⟩
    · exact Run.sameResult_ofWritten rfl
        (overSamples_congr fun sample =>
          dataGradientSample_congr same within target sample left right)
  | backwardFilter =>
    dsimp only
    split
    · exact ⟨rfl, rfl⟩
    · exact Run.sameResult_ofWritten rfl
        (overSamples_congr fun sample => filterGradientSample_congr same within _ sample left right)

/-- Which workspace a pass owns shows neither in its answer nor in its target. -/
theorem run_congr [Mul α] (pass : Pass) (algorithm : Algorithm) {one other : Option (Array α)}
    (same : one.map Array.size = other.map Array.size)
    (within : ∀ scratch ∈ one, scratch.size ≤ geometry.columnRows * geometry.columnCols)
    (target left right : Array α) :
    Run.SameResult (run pass algorithm geometry one target left right)
      (run pass algorithm geometry other target left right) := by
  cases algorithm with
  | direct =>
    unfold run
    cases runDirect pass geometry target left right <;> exact ⟨rfl, rfl⟩
  | lowered =>
    cases one with
    | none =>
      obtain rfl := Option.map_eq_none_iff.mp same.symm
      exact ⟨rfl, rfl⟩
    | some first =>
      obtain ⟨second, rfl, sizes⟩ := Option.map_eq_some_iff.mp same.symm
      exact runLowered_congr pass target left right sizes.symm (within first rfl)

end Conv

end TensorEngine

import TensorEngine.Proofs.Engine.Safety

/-! Reachable engines stay within their storage. Tensors have the elements of their
shapes and plans the sizes that their kernels divide and slice by, so every call answers
or is refused for a cause of the caller's: none of them breaks off. -/

set_option autoImplicit false

namespace TensorEngine

open TensorEngine.Conv TensorEngine.Pool

variable {α : Type}

namespace Conv

/-- Lengths that the kernels of a convolution divide by or cut storage into. -/
def Geometry.divisors (geometry : Geometry) : List Nat :=
  [geometry.stride.1, geometry.stride.2, geometry.planeTaps, geometry.columnCols,
    geometry.output.plane, geometry.output.dims.channels, geometry.output.dims.cols,
    geometry.data.plane, geometry.data.dims.channels, geometry.data.dims.cols,
    geometry.filters.strides.sample, geometry.filters.strides.channel, geometry.filters.strides.row,
    geometry.filters.dims.channels, geometry.filters.dims.rows, geometry.filters.dims.cols]

theorem Geometry.Admitted.divisors_pos {geometry : Geometry} (admitted : geometry.Admitted) :
    ∀ divisor ∈ geometry.divisors, 0 < divisor := by
  obtain ⟨-, dataChannels, dataRows, dataCols⟩ := Shape.pos_of_count admitted.dataHolds
  obtain ⟨-, channels, rows, cols⟩ := Shape.pos_of_count admitted.filtersHold
  obtain ⟨-, outChannels, outRows, outCols⟩ := Shape.pos_of_count admitted.outputHolds
  have rowStride : 0 < geometry.stride.1 := admitted.rowStride
  have colStride : 0 < geometry.stride.2 := admitted.colStride
  unfold divisors planeTaps columnCols Layout.plane Shape.plane
  rw [admitted.filters.strides_eq]
  simp only [List.forall_mem_cons, List.not_mem_nil, false_imp_iff, implies_true, and_true]
  simp only [*, Nat.mul_pos, and_self]

/-- The sizes that the passes of a plan rely on. -/
structure Plan.Bounded (plan : Plan α) : Prop where
  divisors : ∀ divisor ∈ plan.geometry.divisors, 0 < divisor
  -- Samples follow one another in the storage of data and outputs.
  dataSlices : plan.geometry.data.count = plan.geometry.data.dims.samples *
    plan.geometry.data.strides.sample
  outputSlices : plan.geometry.output.count = plan.geometry.data.dims.samples *
    plan.geometry.sampleLength
  -- As matrices, filters and the outputs of a sample have all of their elements.
  filterMatrix : plan.geometry.filters.count = plan.geometry.output.dims.channels *
    plan.geometry.columnRows
  outputMatrix : plan.geometry.sampleLength = plan.geometry.output.dims.channels *
    plan.geometry.columnCols
  columnMatrix : ∀ pass, (plan.passes.get pass).algorithm = .lowered → ∃ workspace,
    (plan.passes.get pass).workspace = some workspace ∧
      workspace.size = plan.geometry.columnRows * plan.geometry.columnCols

theorem Plan.Derived.bounded {counting : Counting} {preference : Preference} {plan : Plan α}
    (derived : plan.Derived counting preference) (counted : plan.Counted counting) :
    plan.Bounded := by
  have admitted := Geometry.admitted_of_ofLayouts derived.keyed
  refine ⟨admitted.divisors_pos, admitted.data.count_eq_samples, admitted.output_count,
    admitted.filters_count, plan.geometry.sampleLength_eq, fun pass lowered => ?_⟩
  exact Option.map_eq_some_iff.mp (derived.owned counted lowered)

end Conv

namespace Engine

/-- The sizes that kernels rely on when they read flat storage. -/
structure Bounded (engine : Engine α) : Prop where
  views : ∀ handle, (engine.heap.data handle).size = (engine.heap.layout handle).count
  elements : ∀ handle index, index.Within (engine.heap.shape handle) →
    (engine.heap.layout handle).offset index < (engine.heap.data handle).size
  broadcasts : ∀ dest src,
    Elementwise.broadcasts (engine.heap.shape dest) (engine.heap.shape src) = true →
    ∀ flat < (engine.heap.data dest).size,
      (engine.heap.layout src).offset (Elementwise.broadcastIndex
      (engine.heap.shape src) ((engine.heap.layout dest).planePosition flat)) <
        (engine.heap.data src).size
  plans : ∀ operator plan, (engine.convolutions operator).plan = some plan → plan.Bounded
  windows : ∀ operator window, (engine.pools operator).window = some window →
    0 < window.stride.1 ∧ 0 < window.stride.2

theorem Sound.bounded {counting : Counting} {engine : Engine α} (sound : engine.Sound counting)
    (counted : ∀ operator, (engine.convolutions operator).Counted counting) : engine.Bounded := by
  have views : ∀ handle, (engine.heap.data handle).size = (engine.heap.layout handle).count :=
    fun handle => (sound.tensors handle).size
  have elements : ∀ handle index, index.Within (engine.heap.shape handle) →
      (engine.heap.layout handle).offset index < (engine.heap.data handle).size := by
    intro handle index within
    rw [views]
    exact (sound.tensors handle).rowMajor.offset_lt within
  have plans : ∀ operator plan, (engine.convolutions operator).plan = some plan → plan.Bounded := by
    intro operator plan held
    obtain ⟨derived, rfl⟩ := sound.convolutions operator
    exact (derived plan held).bounded (counted operator plan held)
  refine ⟨views, elements, ?_, plans, sound.pools⟩
  intro dest src compatible flat inside
  have rowMajor := (sound.tensors dest).rowMajor
  have within : ((engine.heap.layout dest).planePosition flat).Within (engine.heap.shape dest) := by
    rw [views] at inside
    exact (rowMajor.planePosition_eq flat) ▸ rowMajor.position_within inside
  exact elements src _ (Elementwise.broadcastIndex_within compatible within)

variable [Zero α] [One α] [Add α] [Sub α] [Neg α] [Mul α] [Div α] [LT α] [LE α] [DecidableLT α]
  [DecidableLE α] [BEq α] [Elementary α] [Lowest α] [MatrixProduct α] {configs : Nat → EngineConfig}
  {counting : Counting} {engine : Engine α}

/-- A reachable engine whose plans count their column matrices as they are is within bounds,
and every call on it answers or is refused with an error of the caller's, whichever of its
handles are one: no call meets a fault, nor a view that its storage does not fit. -/
theorem Reachable.calls_stay_in_bounds (reachable : Reachable configs counting engine)
    (counted : ∀ operator, (engine.convolutions operator).Counted counting) :
    engine.Bounded ∧ ∀ request, engine.Admits request →
      (engine.perform request).answer = .ok () ∨
        ∃ error : Error, (engine.perform request).answer = .error (.refused error) ∧
          error.kind ≠ .internalLogicError :=
  ⟨reachable.sound.bounded counted, fun request admitted =>
    (reachable.sound.perform_settles admitted (counts_of_counted counted request)).answer⟩

theorem calls_stay_in_bounds_resized :
    let created : Engine Float32 := ((start (fun _ => ⟨0, .limit 48⟩) .words).perform
      (.create #[Float32.ofBits 0x7fc00000, 2] ⟨1, 1, 2, 1⟩)).state
    let configured := (created.perform (.convSetup 0 hostAllocator ⟨0⟩ ⟨0⟩ (1, 1))).state
    let emptied := (configured.perform (.setSize ⟨0⟩ ⟨3, 0, 1, 1⟩)).state
    emptied.Bounded ∧ ∀ request, emptied.Admits request →
      (emptied.perform request).answer = .ok () ∨
        ∃ error : Error, (emptied.perform request).answer = .error (.refused error) ∧
          error.kind ≠ .internalLogicError := by
  intro created configured emptied
  have reachable : Reachable (fun _ => ⟨0, .limit 48⟩) .words emptied :=
    ((Reachable.start.step (by decide)).step (by decide)).step (by decide)
  have entries : (emptied.convolutions 0).plan.map (fun plan =>
      plan.geometry.columnRows * plan.geometry.columnCols) = some 4 := by
    dsimp only [emptied, configured, created]
    decide +kernel
  have counted : ∀ operator, (emptied.convolutions operator).Counted .words := by
    intro operator
    by_cases first : operator = 0
    · rw [first]
      exact Conv.Operator.counted_of_entries entries (Counting.keeps_words_iff.mpr (by decide))
    · have unused : emptied.convolutions operator = created.convolutions operator :=
        Function.update_of_ne first _ _
      rw [unused]
      exact nofun
  exact reachable.calls_stay_in_bounds counted

end Engine

end TensorEngine

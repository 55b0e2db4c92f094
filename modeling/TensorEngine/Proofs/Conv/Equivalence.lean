import TensorEngine.Proofs.Conv.Direct
import TensorEngine.Proofs.Conv.Samples

/-! Both algorithms compute the same passes. In exact arithmetic either leaves the
result that the geometry prescribes, so which one ran cannot be told from it. -/

set_option autoImplicit false

namespace TensorEngine.Conv

variable {α : Type} {geometry : Geometry}

/-- A workspace is at hand, with room for one column matrix, if the algorithm needs one. -/
def Algorithm.Served (algorithm : Algorithm) (geometry : Geometry)
    (workspace : Option (Array α)) : Prop :=
  algorithm = .lowered →
    ∃ scratch, workspace = some scratch ∧ geometry.columnRows * geometry.columnCols ≤ scratch.size

variable [CommSemiring α]

-- Only the data gradient depends on what its target held.
theorem result_congr {pass : Pass} {target other : Array α} (first second : Array α)
    (size : target.size = other.size) (same : pass = .backwardData → target = other) :
    geometry.result pass target first second = geometry.result pass other first second := by
  unfold Geometry.result
  rw [size]
  refine Buffer.cells_congr fun flat _ => ?_
  by_cases accumulates : pass = .backwardData
  · rw [same accumulates]
  · rw [if_neg accumulates, if_neg accumulates]

variable [MatrixProduct α] [MatrixProduct.Exact α]

/-- In exact arithmetic a pass answers and leaves its result, by either algorithm. -/
theorem run_eq_result (admitted : geometry.Admitted) {pass : Pass} {algorithm : Algorithm}
    {workspace : Option (Array α)} {target first second : Array α}
    (fits : geometry.Fits pass target first second) (served : algorithm.Served geometry workspace) :
    (run pass algorithm geometry workspace target first second).answer = .ok () ∧
      (run pass algorithm geometry workspace target first second).target =
        geometry.result pass target first second := by
  cases algorithm with
  | direct =>
    have ran := runDirect_eq_result admitted fits
    unfold run
    dsimp only
    rw [ran]
    exact ⟨rfl, rfl⟩
  | lowered =>
    obtain ⟨scratch, rfl, room⟩ := served rfl
    obtain ⟨after, ran⟩ := runLowered_eq_result admitted fits room
    unfold run
    dsimp only
    rw [ran]
    exact ⟨rfl, rfl⟩

/-- On an accepted geometry the lowered and the direct algorithm both answer and leave
the same target. Neither the workspace nor, where the pass assigns, the target's own
contents play a part. -/
theorem lowered_agrees_with_direct {data filters : Shape} {stride : Nat × Nat}
    (accepted : Geometry.ofLayouts (.ofShape data) (.ofShape filters) stride = .ok geometry)
    (pass : Pass) {target other first second scratch : Array α} (unused : Option (Array α))
    (fits : geometry.Fits pass target first second)
    (size : other.size = (geometry.target pass).count)
    (same : pass = .backwardData → target = other)
    (room : geometry.columnRows * geometry.columnCols ≤ scratch.size) :
    (run pass .lowered geometry (some scratch) target first second).answer = .ok () ∧
      (run pass .direct geometry unused other first second).answer = .ok () ∧
      (run pass .lowered geometry (some scratch) target first second).target =
        (run pass .direct geometry unused other first second).target := by
  have admitted := Geometry.admitted_of_ofLayouts accepted
  have lowered : Algorithm.lowered.Served geometry (some scratch) := fun _ => ⟨scratch, rfl, room⟩
  have direct : Algorithm.direct.Served geometry unused := nofun
  obtain ⟨loweredAnswer, loweredTarget⟩ := run_eq_result admitted fits lowered
  obtain ⟨directAnswer, directTarget⟩ :=
    run_eq_result admitted ⟨size, fits.first, fits.second⟩ direct
  refine ⟨loweredAnswer, directAnswer, ?_⟩
  rw [loweredTarget, directTarget]
  exact result_congr first second (fits.target.trans size.symm) same

theorem lowered_agrees_with_direct_integers :
    let geometry : Geometry := ⟨.ofShape ⟨2, 1, 3, 2⟩, .ofShape ⟨2, 1, 2, 3⟩, (2, 1)⟩
    let gradient : Array Int := Buffer.cells 12 fun i => (i : Int) * i - 7
    let share : Array Int := Buffer.cells 16 fun i => 5 - (i : Int)
    let filters : Array Int := Buffer.cells 12 fun i => 3 * (i : Int) - 4
    let lowered :=
      run .backwardData .lowered geometry (some (Array.replicate 30 9)) gradient share filters
    let direct := run .backwardData .direct geometry none gradient share filters
    geometry.Fits .backwardData gradient share filters ∧ lowered.answer = .ok () ∧
      direct.answer = .ok () ∧
      lowered.target = direct.target := by
  intro geometry gradient share filters lowered direct
  have accepted : Geometry.ofLayouts (.ofShape ⟨2, 1, 3, 2⟩) (.ofShape ⟨2, 1, 2, 3⟩) (2, 1) =
      .ok geometry := rfl
  have fits : geometry.Fits .backwardData gradient share filters :=
    ⟨Buffer.size_cells .., (Buffer.size_cells ..).trans (by decide), Buffer.size_cells ..⟩
  exact ⟨fits, lowered_agrees_with_direct accepted .backwardData none fits fits.target
    (fun _ => rfl) (by decide)⟩

end TensorEngine.Conv

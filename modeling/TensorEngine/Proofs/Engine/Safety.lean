import TensorEngine.Proofs.Engine.State
import TensorEngine.Proofs.Heap.Passes
import TensorEngine.Proofs.Heap.Pooling

/-! Every call on a reachable engine settles, where column matrices are counted as they are.
It answers in a sound state, or it is refused for a cause of the caller's and leaves the
engine as it was; only a refused setup of a convolution releases the plan of its operator. -/

set_option autoImplicit false

namespace TensorEngine

open TensorEngine.Conv TensorEngine.Pool

variable {α β : Type}

namespace Outcome

variable {σ ε γ : Type}

/-- A computation that fails for causes of the caller's only. -/
def FailsForeseen (outcome : Outcome σ ε β) : Prop :=
  ∀ failure, outcome.answer = .error failure → ∃ error : Error, failure = .refused error ∧
    error.Foreseen

theorem failsForeseen_ofExcept {answer : Except Error β} (foreseen : TensorEngine.Foreseen answer)
    (state : σ) :
    FailsForeseen (.ofExcept state answer : Outcome σ ε β) := by
  cases answer with
  | ok value => nofun
  | error error =>
    rintro _ ⟨⟩
    exact ⟨error, rfl, foreseen error rfl⟩

theorem FailsForeseen.andThen {outcome : Outcome σ ε β} {next : β → σ → Outcome σ ε γ}
    (first : outcome.FailsForeseen) (rest : ∀ value state, (next value state).FailsForeseen) :
    (outcome.andThen next).FailsForeseen := by
  cases answered : outcome.answer with
  | ok value =>
    rw [andThen_of_ok next answered]
    exact rest value outcome.state
  | error failure =>
    rw [andThen_of_error next answered]
    rintro _ ⟨⟩
    exact first failure answered

theorem FailsForeseen.map {outcome : Outcome σ ε β} (first : outcome.FailsForeseen) (f : β → γ) :
    (outcome.map f).FailsForeseen := by
  intro failure failed
  unfold Outcome.map at failed
  cases answered : outcome.answer with
  | ok value =>
    rw [answered] at failed
    cases failed
  | error cause =>
    rw [answered] at failed
    cases failed
    exact first failure answered

end Outcome

/-! Setting up a convolution. -/

namespace Conv

theorem Geometry.foreseen_ofLayouts (data filters : Layout) (stride : Nat × Nat) :
    Foreseen (Geometry.ofLayouts data filters stride) := by
  intro error refused
  unfold Geometry.ofLayouts at refused
  split at refused
  · cases refused
    nofun
  · split at refused
    · cases refused
      nofun
    · split at refused
      · cases refused
        nofun
      · cases refused

variable [Zero α]

theorem PassPlan.foreseen_ofAlgorithm (allocator : Allocator) (counting : Counting)
    (algorithm : Algorithm) (pass : Pass) (geometry : Geometry) :
    Foreseen
      (PassPlan.ofAlgorithm allocator counting algorithm pass geometry : Except Error
        (PassPlan α)) := by
  intro error refused
  unfold PassPlan.ofAlgorithm Buffer.allocate at refused
  dsimp only at refused
  split at refused
  · split at refused
    · cases refused
      nofun
    · cases refused
  · cases refused

theorem Plan.failsForeseen_derive (allocator : Allocator) (counting : Counting)
    (preference : Preference) (key : Key) (geometry : Geometry) :
    (Plan.derive allocator counting preference key geometry :
      Outcome Unit (Event α) (Plan α)).FailsForeseen := by
  have pass : ∀ pass, (PassPlan.derive allocator counting preference pass geometry :
      Outcome Unit (Event α) (PassPlan α)).FailsForeseen := fun pass =>
    Outcome.failsForeseen_ofExcept
      (PassPlan.foreseen_ofAlgorithm allocator counting _ pass geometry) ()
  exact (pass .forward).andThen fun _ _ => (pass .backwardData).andThen fun _ _ =>
    (pass .backwardFilter).map _

theorem Operator.failsForeseen_setup (allocator : Allocator) (operator : Operator α)
    (data filters : Layout) (stride : Nat × Nat) :
    (operator.setup allocator data filters stride).FailsForeseen := by
  intro failure failed
  unfold Operator.setup at failed
  dsimp only at failed
  split at failed
  · cases failed
  · split at failed
    · rename_i error refused
      cases failed
      exact ⟨error, rfl, Geometry.foreseen_ofLayouts _ _ _ error refused⟩
    · split at failed
      · rename_i derived
        cases failed
        exact Plan.failsForeseen_derive _ _ _ _ _ failure derived
      · cases failed

end Conv

namespace Engine

/-- What calls rely on and preserve. -/
structure Sound (counting : Counting) (engine : Engine α) : Prop where
  tensors : engine.heap.Regular
  convolutions : ∀ operator, (engine.convolutions operator).Derived ∧
    (engine.convolutions operator).counting = counting
  pools : ∀ operator, (engine.pools operator).Sound

/-- The operator that a call runs a pass of counts its column matrix as it is. -/
def Counts (counting : Counting) (engine : Engine α) : Request α → Prop
  | .convForward operator .. | .convDataGradient operator .. | .convFilterGradient operator .. =>
    (engine.convolutions operator).Counted counting
  | _ => True

/-- The state after a refused request: as it was, except that the setup of a convolution has
released the plan of its operator by then. -/
def whenRefused (engine : Engine α) : Request α → Engine α
  | .convSetup operator .. =>
    { engine with
      convolutions :=
        Function.update engine.convolutions operator (engine.convolutions operator).released }
  | _ => engine

theorem counts_of_counted {counting : Counting} {engine : Engine α}
    (counted : ∀ operator, (engine.convolutions operator).Counted counting) (request : Request α) :
    engine.Counts counting request := by
  cases request with
  | convForward operator | convDataGradient operator | convFilterGradient operator =>
    exact counted operator
  | _ => trivial

/-- A call is refused in one given state, or it answers in a sound one. -/
inductive Settles (counting : Counting) (refused : Engine α) :
    Outcome (Engine α) (Event α) Unit → Prop where
  | refused {error : Error} {events : List (Event α)} (foreseen : error.Foreseen) :
    Settles counting refused ⟨.error (.refused error), refused, events⟩
  | answered {after : Engine α} {events : List (Event α)} (sound : after.Sound counting) :
    Settles counting refused ⟨.ok (), after, events⟩

namespace Settles

variable {counting : Counting} {refused : Engine α} {outcome : Outcome (Engine α) (Event α) Unit}
  (settles : Settles counting refused outcome)

include settles

theorem sound (sound : refused.Sound counting) : outcome.state.Sound counting := by
  cases settles with
  | refused _ => exact sound
  | answered kept => exact kept

theorem answer : outcome.answer = .ok () ∨
    ∃ error : Error, outcome.answer = .error (.refused error) ∧
      error.kind ≠ .internalLogicError := by
  cases settles with
  | refused foreseen => exact .inr ⟨_, rfl, foreseen⟩
  | answered _ => exact .inl rfl

end Settles

namespace Sound

theorem start (configs : Nat → EngineConfig) (counting : Counting) :
    (Engine.start configs counting : Engine α).Sound counting :=
  ⟨Heap.regular_empty, fun _ => ⟨nofun, rfl⟩, fun _ => Pool.Operator.sound_new⟩

variable {counting : Counting} {engine : Engine α} (sound : engine.Sound counting)

include sound

theorem withConvolution {operator : Nat} {after : Conv.Operator α} {heap : Heap α}
    (regular : heap.Regular) (settings : after.SameSettings (engine.convolutions operator))
    (derived : after.Derived) :
    Sound counting
      { engine with heap, convolutions := Function.update engine.convolutions operator after } :=
  ⟨regular, (Function.forall_update_iff _ fun _ (one : Conv.Operator α) =>
      one.Derived ∧ one.counting = counting).mpr
    ⟨⟨derived, settings.counting.trans (sound.convolutions operator).2⟩,
      fun other _ => sound.convolutions other⟩, sound.pools⟩

theorem withPool {operator : Nat} {after : Pool.Operator} (positive : after.Sound) :
    Sound counting { engine with pools := Function.update engine.pools operator after } :=
  ⟨sound.tensors, sound.convolutions,
    (Function.forall_update_iff _ fun _ => Pool.Operator.Sound).mpr
    ⟨positive, fun other _ => sound.pools other⟩⟩

theorem whenRefused (request : Request α) : (engine.whenRefused request).Sound counting := by
  cases request with
  | convSetup operator =>
    exact sound.withConvolution sound.tensors ⟨rfl, rfl⟩
      (Conv.Operator.derived_released (engine.convolutions operator))
  | _ => exact sound

theorem create_settles (data : Array α) (shape : Shape) :
    Settles counting engine (engine.onHeap (engine.heap.create data shape)) := by
  have regular := sound.tensors.create data shape
  unfold Heap.create at regular ⊢
  cases wrapped : Tensor.wrap data shape with
  | error error =>
    refine .refused ?_
    unfold Tensor.wrap at wrapped
    dsimp only at wrapped
    split at wrapped
    · cases wrapped
    · cases wrapped
      nofun
  | ok tensor =>
    rw [wrapped] at regular
    exact .answered ⟨regular, sound.convolutions, sound.pools⟩

theorem onHeap_settles {dest : Handle} (valid : engine.heap.Valid dest)
    {call : Outcome (Heap α) (Event α) Unit} (lands : Heap.Lands id engine.heap dest call) :
    Settles counting engine (engine.onHeap call) := by
  cases lands with
  | refused foreseen => exact .refused foreseen
  | written regular moved =>
    cases moved
    exact .answered ⟨sound.tensors.put valid regular, sound.convolutions, sound.pools⟩

theorem onConvolution_settles {dest : Handle} (valid : engine.heap.Valid dest) {operator : Nat}
    {call : Outcome (Conv.Operator α × Heap α) (Event α) Unit}
    (lands : Heap.Lands Prod.snd (engine.convolutions operator, engine.heap) dest call)
    (settings : call.state.1.SameSettings (engine.convolutions operator))
    (derived : call.state.1.Derived) :
    Settles counting engine (engine.onConvolution operator call) := by
  cases lands with
  | refused foreseen =>
    -- The operator is put back as it was.
    have kept : Function.update engine.convolutions operator (engine.convolutions operator) =
        engine.convolutions := Function.update_eq_self operator engine.convolutions
    unfold onConvolution Outcome.mapState
    dsimp only
    rw [kept]
    exact .refused foreseen
  | @written after _ _ regular moved =>
    refine .answered (sound.withConvolution ?_ settings derived)
    rw [moved]
    exact sound.tensors.put valid regular

theorem setup_settles [Zero α] (operator : Nat) (allocator : Allocator) (data filters : Handle)
    (stride : Nat × Nat) :
    Settles counting (engine.whenRefused (.convSetup operator allocator data filters stride))
      (engine.onConvolution operator ((engine.heap.setupConvolution allocator
        (engine.convolutions operator) data filters stride).mapState (·, engine.heap))) := by
  unfold Heap.setupConvolution
  generalize called : (engine.convolutions operator).setup allocator (engine.heap.layout data)
    (engine.heap.layout filters) stride = outcome
  have foreseen := Operator.failsForeseen_setup allocator (engine.convolutions operator)
    (engine.heap.layout data) (engine.heap.layout filters) stride
  have derived : ((engine.convolutions operator).setup allocator (engine.heap.layout data)
      (engine.heap.layout filters) stride).state.Derived :=
    (sound.convolutions operator).1.setup (sound.tensors data).rowMajor
      (sound.tensors filters).rowMajor
  have settings : ((engine.convolutions operator).setup allocator (engine.heap.layout data)
      (engine.heap.layout filters) stride).state.SameSettings (engine.convolutions operator) :=
    Operator.sameSettings_setup
  have cases := Operator.setup_cases allocator (engine.convolutions operator)
    (engine.heap.layout data) (engine.heap.layout filters) stride
  rw [called] at foreseen derived settings
  simp only [called] at cases
  obtain ⟨answer, after, events⟩ := outcome
  dsimp only at foreseen derived settings cases
  obtain ⟨-, rfl, -⟩ | ⟨⟨failure, rfl⟩, rfl⟩ | ⟨_, _, -, -, rfl, -⟩ := cases
  · exact .answered (sound.withConvolution sound.tensors settings derived)
  · obtain ⟨error, rfl, cause⟩ := foreseen failure rfl
    exact .refused cause
  · exact .answered (sound.withConvolution sound.tensors settings derived)

theorem poolSetup_settles (operator : Nat) (window : Window) :
    Settles counting engine (engine.onPool operator ((engine.pools operator).setup window)) := by
  have positive : ((engine.pools operator).setup window : Outcome Pool.Operator
      (Event α) Unit).state.Sound :=
    (sound.pools operator).setup window
  have cases := Pool.Operator.setup_cases (α := α) (engine.pools operator) window
  generalize ((engine.pools operator).setup window : Outcome Pool.Operator (Event α) Unit) = called
    at positive cases
  obtain ⟨answer, after, events⟩ := called
  dsimp only at positive cases
  obtain ⟨rfl, rfl⟩ | ⟨-, -, rfl, -⟩ := cases
  · have kept : Function.update engine.pools operator (engine.pools operator) = engine.pools :=
      Function.update_eq_self operator engine.pools
    unfold onPool Outcome.mapState
    dsimp only
    rw [kept]
    exact .refused nofun
  · exact .answered (sound.withPool positive)

variable [Zero α] [One α] [Add α] [Sub α] [Neg α] [Mul α] [Div α] [LT α] [LE α] [DecidableLT α]
  [DecidableLE α] [BEq α] [Elementary α] [Lowest α] [MatrixProduct α]

/-- Every admitted call settles, if the operator that it runs counts its column matrix as it
is. -/
theorem perform_settles {request : Request α} (admitted : engine.Admits request)
    (counts : engine.Counts counting request) :
    Settles counting (engine.whenRefused request) (engine.perform request) := by
  have regular := sound.tensors
  unfold Admits at admitted
  cases request with
  | create data shape => exact sound.create_settles data shape
  | createZeros shape => exact sound.create_settles _ shape
  | duplicate source => exact sound.create_settles _ _
  | setSize dest shape =>
    exact sound.onHeap_settles (admitted dest (by simp [Request.handles]))
      (Heap.lands_setSize engine.heap dest shape)
  | setHost dest values =>
    exact sound.onHeap_settles (admitted dest (by simp [Request.handles]))
      (Heap.lands_setHost regular dest values)
  | fill dest value =>
    exact sound.onHeap_settles (admitted dest (by simp [Request.handles]))
      (Heap.lands_fill regular dest value)
  | scale dest factor =>
    exact sound.onHeap_settles (admitted dest (by simp [Request.handles]))
      (Heap.lands_scale regular dest factor)
  | add beta dest alpha src =>
    exact sound.onHeap_settles (admitted dest (by simp [Request.handles]))
      (Heap.lands_add regular beta dest alpha src)
  | biasGradient bias gradient =>
    exact sound.onHeap_settles (admitted bias (by simp [Request.handles]))
      (Heap.lands_addBiasGradient regular bias gradient)
  | activate activation dest src =>
    have valid := admitted dest (by simp [Request.handles])
    exact sound.onHeap_settles valid (Heap.lands_activate regular activation valid src)
  | activationGradient activation gradient outputs outputGradient =>
    have valid := admitted gradient (by simp [Request.handles])
    exact sound.onHeap_settles valid (Heap.lands_activationGradient regular valid)
  | convSetup operator allocator data filters stride =>
    exact sound.setup_settles operator allocator data filters stride
  | convForward operator output data filters =>
    have valid := admitted output (by simp [Request.handles])
    obtain ⟨derived, rfl⟩ := sound.convolutions operator
    exact sound.onConvolution_settles valid
      (Heap.lands_convolveForward regular derived counts valid data filters)
      Heap.convolveForward_operator.1 (Heap.convolveForward_operator.2 derived)
  | convDataGradient operator outputGradient filters dataGradient =>
    obtain ⟨derived, rfl⟩ := sound.convolutions operator
    exact sound.onConvolution_settles (admitted dataGradient (by simp [Request.handles]))
      (Heap.lands_addDataGradient regular derived counts outputGradient filters dataGradient)
      Heap.addDataGradient_operator.1 (Heap.addDataGradient_operator.2 derived)
  | convFilterGradient operator outputGradient data filterGradient =>
    obtain ⟨derived, rfl⟩ := sound.convolutions operator
    exact sound.onConvolution_settles (admitted filterGradient (by simp [Request.handles]))
      (Heap.lands_assignFilterGradient regular derived counts outputGradient data filterGradient)
      Heap.assignFilterGradient_operator.1 (Heap.assignFilterGradient_operator.2 derived)
  | convClear operator =>
    exact .answered (sound.withConvolution regular ⟨rfl, rfl⟩
      (Conv.Operator.derived_released (engine.convolutions operator)))
  | poolSetup operator window => exact sound.poolSetup_settles operator window
  | pool operator dest src =>
    have valid := admitted dest (by simp [Request.handles])
    exact sound.onHeap_settles valid (Heap.lands_pool regular (sound.pools operator) valid src)
  | poolGradient operator outputGradient dest src gradient =>
    exact sound.onHeap_settles (admitted gradient (by simp [Request.handles]))
      (Heap.lands_addPoolGradient regular (sound.pools operator) outputGradient dest src gradient)
  | poolClear operator => exact .answered (sound.withPool Pool.Operator.sound_new)

/-- Every admitted call keeps the engine sound, also a pass that misses its workspace. -/
theorem perform {request : Request α} (admitted : engine.Admits request) :
    (engine.perform request).state.Sound counting := by
  unfold Admits at admitted
  cases request with
  | convForward operator output data filters =>
    have valid := admitted output (by simp [Request.handles])
    exact sound.withConvolution (sound.tensors.convolveForward valid data filters)
      Heap.convolveForward_operator.1
      (Heap.convolveForward_operator.2 (sound.convolutions operator).1)
  | convDataGradient operator outputGradient filters dataGradient =>
    have valid := admitted dataGradient (by simp [Request.handles])
    exact sound.withConvolution (sound.tensors.addDataGradient outputGradient filters valid)
      Heap.addDataGradient_operator.1
      (Heap.addDataGradient_operator.2 (sound.convolutions operator).1)
  | convFilterGradient operator outputGradient data filterGradient =>
    have valid := admitted filterGradient (by simp [Request.handles])
    exact sound.withConvolution (sound.tensors.assignFilterGradient outputGradient data valid)
      Heap.assignFilterGradient_operator.1
      (Heap.assignFilterGradient_operator.2 (sound.convolutions operator).1)
  | _ => exact (sound.perform_settles admitted trivial).sound (sound.whenRefused _)

end Sound

section

variable [Zero α] [One α] [Add α] [Sub α] [Neg α] [Mul α] [Div α] [LT α] [LE α] [DecidableLT α]
  [DecidableLE α] [BEq α] [Elementary α] [Lowest α] [MatrixProduct α]
  {configs : Nat → EngineConfig} {counting : Counting} {engine : Engine α}

theorem Reachable.sound (reachable : Reachable configs counting engine) :
    engine.Sound counting := by
  induction reachable with
  | start => exact .start configs counting
  | step _ admitted sound => exact sound.perform admitted

end

end Engine

end TensorEngine

import TensorEngine.Proofs.Engine.Safety
import TensorEngine.Proofs.Heap.Destination

/-! Destinations that are assigned and destinations that are added to. The same call is
made on two engines that differ in what its destination held before. -/

set_option autoImplicit false

namespace TensorEngine

open TensorEngine.Conv TensorEngine.Pool

variable {α : Type}

namespace Request

/-- The tensor that a call assigns, unless the call is to read it as well. -/
def assigned? [Zero α] [BEq α] : Request α → Option Handle
  | .convForward _ output _ _ => some output
  | .convFilterGradient _ _ _ filterGradient => some filterGradient
  | .pool _ dest _ => some dest
  | .activate _ dest src => if dest = src then none else some dest
  | .activationGradient _ gradient _ outputGradient =>
    if gradient = outputGradient then none else some gradient
  | .add beta dest _ _ => if beta == 0 then some dest else none
  | _ => none

/-- The tensor that a call adds onto. -/
def accumulated? : Request α → Option Handle
  | .convDataGradient _ _ _ dataGradient => some dataGradient
  | .poolGradient _ _ _ _ gradient => some gradient
  | .biasGradient bias _ => some bias
  | _ => none

/-- A call that gives its destination the shape that it needs. -/
def resizes : Request α → Bool
  | .convForward .. | .pool .. => true
  | _ => false

end Request

namespace Heap

variable {σ τ : Type} {tensors : σ → Heap α} {lifted : τ → Heap α} {dest : Handle}
  {one other : Outcome σ (Event α) Unit} {onOne onOther : Outcome τ (Event α) Unit}

-- The outcome of a call on the tensors, seen as one on the engine.
theorem AssignAlike.lift (alike : AssignAlike tensors dest one other)
    (answer : onOther.answer = other.answer) (state : lifted onOne.state = tensors one.state)
    (otherState : lifted onOther.state = tensors other.state) :
    AssignAlike lifted dest onOne onOther where
  answer := answer.trans alike.answer
  tensor := by rw [state, otherState, alike.tensor]

theorem AddAlike.lift [AddGroup α] {before otherBefore : Heap α}
    (alike : AddAlike tensors dest before otherBefore one other)
    (answer : onOther.answer = other.answer) (state : lifted onOne.state = tensors one.state)
    (otherState : lifted onOther.state = tensors other.state) :
    AddAlike lifted dest before otherBefore onOne onOther where
  answer := answer.trans alike.answer
  shape := by rw [state, alike.shape]
  otherShape := by rw [otherState, alike.otherShape]
  increments := by
    rw [state, otherState]
    exact alike.increments

end Heap

namespace Engine

/-- The engine with another tensor in the place of one that it has. -/
def holding (engine : Engine α) (dest : Handle) (tensor : Tensor α) : Engine α :=
  { engine with heap := engine.heap.put dest tensor }

@[simp] theorem answer_onHeap (engine : Engine α) (call : Outcome (Heap α) (Event α) Unit) :
    (engine.onHeap call).answer = call.answer := by
  unfold onHeap Outcome.map
  cases answered : call.answer <;> simp [Outcome.mapState, answered, Except.map]

theorem onHeap_answered {engine : Engine α} {call : Outcome (Heap α) (Event α) Unit}
    (answered : (engine.onHeap call).answer = .ok ()) : call.answer = .ok () :=
  (answer_onHeap engine call).symm.trans answered

section

variable {engine : Engine α} {dest : Handle} {one other : Tensor α}

theorem Sound.differAt {counting : Counting} (sound : engine.Sound counting)
    (valid : engine.heap.Valid dest) (regular : one.Regular) (otherRegular : other.Regular) :
    Heap.DifferAt dest (engine.holding dest one).heap (engine.holding dest other).heap :=
  sound.tensors.differAt valid regular otherRegular

theorem shape_holding (valid : engine.heap.Valid dest) :
    (engine.holding dest one).heap.shape dest = one.shape :=
  congrArg Tensor.shape (Heap.get_put_self valid one)

end

section

variable [Zero α] [One α] [Add α] [Sub α] [Neg α] [Mul α] [Div α] [LT α] [LE α] [DecidableLT α]
  [DecidableLE α] [BEq α] [Elementary α] [Lowest α] [MatrixProduct α]

theorem Sound.perform_assigns [MatrixProduct.Assigning α] {counting : Counting} {engine : Engine α}
    (sound : engine.Sound counting) {request : Request α} {dest : Handle}
    (valid : engine.heap.Valid dest) (assigned : request.assigned? = some dest)
    {one other : Tensor α} (regular : one.Regular) (otherRegular : other.Regular)
    (shapes : request.resizes = false → one.shape = other.shape)
    (answered : ((engine.holding dest one).perform request).answer = .ok ()) :
    Heap.AssignAlike Engine.heap dest ((engine.holding dest one).perform request)
      ((engine.holding dest other).perform request) := by
  have differ := sound.differAt valid regular otherRegular
  have same : request.resizes = false →
      (engine.holding dest one).heap.shape dest = (engine.holding dest other).heap.shape dest := by
    intro kept
    rw [shape_holding valid, shape_holding valid, shapes kept]
  cases request with
  | convForward operator output data filters =>
    cases assigned
    exact (differ.convolveForward (sound.convolutions operator).1 answered).lift rfl rfl rfl
  | convFilterGradient operator outputGradient data filterGradient =>
    cases assigned
    exact (differ.assignFilterGradient (sound.convolutions operator).1 (same rfl) answered).lift
      rfl rfl rfl
  | pool operator output src =>
    cases assigned
    exact (differ.pool (sound.pools operator) (onHeap_answered answered)).lift
      (answer_onHeap _ _) rfl rfl
  | activate activation output src =>
    obtain ⟨apart, rfl⟩ : output ≠ src ∧ output = dest := by
      simpa [Request.assigned?] using assigned
    exact (differ.activate (same rfl) apart (onHeap_answered answered)).lift
      (answer_onHeap _ _) rfl rfl
  | activationGradient activation gradient outputs outputGradient =>
    obtain ⟨apart, rfl⟩ : gradient ≠ outputGradient ∧ gradient = dest := by
      simpa [Request.assigned?] using assigned
    exact (differ.activationGradient (same rfl) apart (onHeap_answered answered)).lift
      (answer_onHeap _ _) rfl rfl
  | add beta output alpha src =>
    obtain ⟨none, rfl⟩ : (beta == 0) = true ∧ output = dest := by
      simpa [Request.assigned?] using assigned
    exact (differ.add (same rfl) none (onHeap_answered answered)).lift (answer_onHeap _ _) rfl rfl
  | _ => cases assigned

end

section

variable [AddCommGroup α] [One α] [Mul α] [Div α] [LT α] [LE α] [DecidableLT α] [DecidableLE α]
  [BEq α] [Elementary α] [Lowest α] [MatrixProduct α]

theorem Sound.perform_adds {counting : Counting} {engine : Engine α} (sound : engine.Sound counting)
    {request : Request α} {dest : Handle} (valid : engine.heap.Valid dest)
    (accumulated : request.accumulated? = some dest) {one other : Tensor α} (regular : one.Regular)
    (otherRegular : other.Regular) (shapes : one.shape = other.shape)
    (answered : ((engine.holding dest one).perform request).answer = .ok ()) :
    Heap.AddAlike Engine.heap dest (engine.holding dest one).heap (engine.holding dest other).heap
      ((engine.holding dest one).perform request)
        ((engine.holding dest other).perform request) := by
  have differ := sound.differAt valid regular otherRegular
  have same : (engine.holding dest one).heap.shape dest =
      (engine.holding dest other).heap.shape dest := by
    rw [shape_holding valid, shape_holding valid, shapes]
  cases request with
  | convDataGradient operator outputGradient filters dataGradient =>
    cases accumulated
    exact (differ.addDataGradient (sound.convolutions operator).1 same answered).lift rfl rfl rfl
  | poolGradient operator outputGradient outputs src gradient =>
    cases accumulated
    exact (differ.addPoolGradient (sound.pools operator) same (onHeap_answered answered)).lift
      (answer_onHeap _ _) rfl rfl
  | biasGradient bias gradient =>
    cases accumulated
    exact (differ.addBiasGradient same (onHeap_answered answered)).lift (answer_onHeap _ _) rfl rfl
  | _ => cases accumulated

end

/-- A call that assigns its destination leaves one tensor there, whatever the destination
held before; where it resizes, also whatever its shape was. This is so for any scalars. A
call that adds moves each element by one amount, whatever was there before; scalars then
add exactly. Both are stated for a call that answers on some contents of the destination. -/
theorem destinations_kept_apart :
    (∀ (α : Type) [Zero α] [One α] [Add α] [Sub α] [Neg α] [Mul α] [Div α] [LT α] [LE α]
      [DecidableLT α] [DecidableLE α] [BEq α] [Elementary α] [Lowest α] [MatrixProduct α]
      [MatrixProduct.Assigning α]
      (configs : Nat → EngineConfig) (counting : Counting) (engine : Engine α),
      Reachable configs counting engine →
      ∀ (request : Request α) (dest : Handle), engine.heap.Valid dest →
        request.assigned? = some dest →
      ∀ one other : Tensor α, one.Regular → other.Regular →
        (request.resizes = false → one.shape = other.shape) →
      ((engine.holding dest one).perform request).answer = .ok () →
        Heap.AssignAlike Engine.heap dest ((engine.holding dest one).perform request)
          ((engine.holding dest other).perform request)) ∧
    ∀ (α : Type) [AddCommGroup α] [One α] [Mul α] [Div α] [LT α] [LE α] [DecidableLT α]
      [DecidableLE α] [BEq α] [Elementary α] [Lowest α] [MatrixProduct α]
      (configs : Nat → EngineConfig) (counting : Counting) (engine : Engine α),
      Reachable configs counting engine →
      ∀ (request : Request α) (dest : Handle), engine.heap.Valid dest →
        request.accumulated? = some dest →
      ∀ one other : Tensor α, one.Regular → other.Regular → one.shape = other.shape →
      ((engine.holding dest one).perform request).answer = .ok () →
        Heap.AddAlike Engine.heap dest (engine.holding dest one).heap
          (engine.holding dest other).heap ((engine.holding dest one).perform request)
          ((engine.holding dest other).perform request) := by
  constructor
  · intro α _ _ _ _ _ _ _ _ _ _ _ _ _ _ _ _ configs counting engine reachable request dest valid
      assigned one other
    exact reachable.sound.perform_assigns valid assigned
  · intro α _ _ _ _ _ _ _ _ _ _ _ _ configs counting engine reachable request dest valid accumulated
      one other
    exact reachable.sound.perform_adds valid accumulated

theorem destinations_kept_apart_primed :
    let nan := Float32.ofBits 0x7fc00000
    let withData : Engine Float32 := ((start (fun _ => ⟨0, .limit 48⟩) .words).perform
      (.create #[1, 2] ⟨1, 1, 2, 1⟩)).state
    let withFilters := (withData.perform (.create #[3] ⟨1, 1, 1, 1⟩)).state
    let withOutput := (withFilters.perform (.createZeros Shape.empty)).state
    let engine := (withOutput.perform (.convSetup 0 hostAllocator ⟨0⟩ ⟨1⟩ (1, 1))).state
    let primed : Tensor Float32 := ⟨Descriptor.new.setSize ⟨1, 1, 2, 1⟩, #[nan, nan]⟩
    let short : Tensor Float32 := ⟨Descriptor.new.setSize ⟨1, 1, 1, 1⟩, #[7]⟩
    let _ : Elementary Int := ⟨id, id⟩
    let _ : Lowest Int := ⟨-100⟩
    let withGradient : Engine Int := ((start (fun _ => ⟨0, .limit 48⟩) .words).perform
      (.create #[1, 2, 3, 4] ⟨1, 2, 2, 1⟩)).state
    let counting := (withGradient.perform (.create #[0, 0] ⟨1, 2, 1, 1⟩)).state
    let fresh : Tensor Int := ⟨Descriptor.new.setSize ⟨1, 2, 1, 1⟩, #[0, 0]⟩
    let used : Tensor Int := ⟨Descriptor.new.setSize ⟨1, 2, 1, 1⟩, #[50, -60]⟩
    Heap.AssignAlike Engine.heap ⟨2⟩
      ((engine.holding ⟨2⟩ primed).perform (.convForward 0 ⟨2⟩ ⟨0⟩ ⟨1⟩))
      ((engine.holding ⟨2⟩ short).perform (.convForward 0 ⟨2⟩ ⟨0⟩ ⟨1⟩)) ∧
    Heap.AddAlike Engine.heap ⟨1⟩ (counting.holding ⟨1⟩ fresh).heap (counting.holding ⟨1⟩ used).heap
      ((counting.holding ⟨1⟩ fresh).perform (.biasGradient ⟨1⟩ ⟨0⟩))
      ((counting.holding ⟨1⟩ used).perform (.biasGradient ⟨1⟩ ⟨0⟩)) := by
  intro nan withData withFilters withOutput engine primed short _ _ withGradient counting fresh used
  have reachable : Reachable (fun _ => ⟨0, .limit 48⟩) .words engine :=
    (((Reachable.start.step (by decide)).step (by decide)).step (by decide)).step (by decide)
  have counted : Reachable (fun _ => ⟨0, .limit 48⟩) .words counting :=
    (Reachable.start.step (by decide)).step (by decide)
  constructor
  · refine destinations_kept_apart.1 Float32 _ _ engine reachable _ ⟨2⟩ (by decide) rfl primed short
      (Tensor.regular_setSize _ _ rfl) (Tensor.regular_setSize _ _ rfl) nofun ?_
    have answers : (((engine.holding ⟨2⟩ primed).perform (.convForward 0 ⟨2⟩ ⟨0⟩ ⟨1⟩)).answer
        matches .ok ()) := by
      dsimp only [engine, withOutput, withFilters, withData, primed, nan]
      decide +kernel
    revert answers
    cases ((engine.holding ⟨2⟩ primed).perform (.convForward 0 ⟨2⟩ ⟨0⟩ ⟨1⟩)).answer with
    | ok _ => exact fun _ => rfl
    | error _ => nofun
  · exact destinations_kept_apart.2 Int _ _ counting counted (.biasGradient ⟨1⟩ ⟨0⟩) ⟨1⟩
      (by decide) rfl fresh used
      (Tensor.regular_setSize _ _ rfl) (Tensor.regular_setSize _ _ rfl) rfl rfl

end Engine

end TensorEngine

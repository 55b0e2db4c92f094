import Mathlib.Logic.Relation
import TensorEngine.Proofs.Engine.State
import TensorEngine.Proofs.Heap.Frame

/-! Clients of an engine. A client holds handles: those that its calls gave out, and
clones of handles that it held before. They are numbered in the order in which it got
them, and any number of them may stand for one tensor. -/

set_option autoImplicit false

namespace TensorEngine

open TensorEngine.Conv TensorEngine.Pool

variable {α : Type}

/-- The tensor that a call writes to, of those that are there already. -/
def Request.destination? : Request α → Option Handle
  | .setSize dest _ | .setHost dest _ | .fill dest _ | .scale dest _ | .add _ dest _ _ => some dest
  | .biasGradient bias _ => some bias
  | .activate _ dest _ | .pool _ dest _ => some dest
  | .activationGradient _ gradient _ _ | .poolGradient _ _ _ _ gradient => some gradient
  | .convForward _ output _ _ => some output
  | .convDataGradient _ _ _ dataGradient => some dataGradient
  | .convFilterGradient _ _ _ filterGradient => some filterGradient
  | .create .. | .createZeros _ | .duplicate _ | .convSetup .. | .convClear _ | .poolSetup ..
  | .poolClear _ => none

namespace Engine

/-- The handle that a call gives out, if it makes a tensor. -/
def created? [Zero α] (engine : Engine α) : Request α → Option Handle
  | .create data shape => (engine.heap.create data shape).answer.toOption
  | .createZeros shape => (engine.heap.createZeros shape).answer.toOption
  | .duplicate source => (engine.heap.duplicate source).answer.toOption
  | _ => none

/-- All that a call can do to the tensors, answered or not. -/
inductive Effect [Zero α] (engine : Engine α) (request : Request α) (after : Heap α) : Prop where
  | nothing (destination : request.destination? = none) (created : engine.created? request = none)
      (same : after = engine.heap)
  | written {dest : Handle} (destination : request.destination? = some dest)
      (created : engine.created? request = none) (confined : Heap.Confined dest engine.heap after)
  | inserted {tensor : Tensor α} (destination : request.destination? = none)
      (created : engine.created? request = some (engine.heap.insert tensor).2)
      (same : after = (engine.heap.insert tensor).1)

theorem effect_create [Zero α] {engine : Engine α} {request : Request α} {data : Array α}
    {shape : Shape} (destination : request.destination? = none)
    (created : engine.created? request = (engine.heap.create data shape).answer.toOption) :
    engine.Effect request (engine.heap.create data shape).state := by
  unfold Heap.create at created ⊢
  cases wrapped : Tensor.wrap data shape with
  | error error =>
    rw [wrapped] at created
    exact .nothing destination created rfl
  | ok tensor =>
    rw [wrapped] at created
    exact .inserted destination created rfl

variable [Zero α] [One α] [Add α] [Sub α] [Neg α] [Mul α] [Div α] [LT α] [LE α] [DecidableLT α]
  [DecidableLE α] [BEq α] [Elementary α] [Lowest α] [MatrixProduct α]

theorem perform_effect (engine : Engine α) (request : Request α) :
    engine.Effect request (engine.perform request).state.heap := by
  cases request with
  | create data shape => exact effect_create rfl rfl
  | createZeros shape => exact effect_create rfl rfl
  | duplicate source => exact effect_create rfl rfl
  | setSize dest shape => exact .written rfl rfl (Heap.confined_setSize _ dest shape)
  | setHost dest values => exact .written rfl rfl (Heap.rewritten_setHost _ dest values).confined
  | fill dest value => exact .written rfl rfl (Heap.rewritten_fill _ dest value).confined
  | scale dest factor => exact .written rfl rfl (Heap.rewritten_scale _ dest factor).confined
  | add beta dest alpha src =>
    exact .written rfl rfl (Heap.rewritten_add _ beta dest alpha src).confined
  | biasGradient bias gradient =>
    exact .written rfl rfl (Heap.rewritten_addBiasGradient _ bias gradient).confined
  | activate activation dest src =>
    exact .written rfl rfl (Heap.rewritten_activate _ activation dest src).confined
  | activationGradient activation gradient outputs outputGradient =>
    exact .written rfl rfl
      (Heap.rewritten_activationGradient _ activation gradient outputs outputGradient).confined
  | convSetup operator allocator data filters stride => exact .nothing rfl rfl rfl
  | convForward operator output data filters =>
    exact .written rfl rfl (Heap.confined_convolveForward _ _ output data filters)
  | convDataGradient operator outputGradient filters dataGradient =>
    exact .written rfl rfl
      (Heap.rewritten_addDataGradient _ _ outputGradient filters dataGradient).confined
  | convFilterGradient operator outputGradient data filterGradient =>
    exact .written rfl rfl
      (Heap.rewritten_assignFilterGradient _ _ outputGradient data filterGradient).confined
  | convClear operator => exact .nothing rfl rfl rfl
  | poolSetup operator window => exact .nothing rfl rfl rfl
  | pool operator dest src => exact .written rfl rfl (Heap.confined_pool _ _ dest src)
  | poolGradient operator outputGradient dest src gradient =>
    exact .written rfl rfl
      (Heap.rewritten_addPoolGradient _ _ outputGradient dest src gradient).confined
  | poolClear operator => exact .nothing rfl rfl rfl

/-- A tensor that is not the destination of a call is the same after it, on any heap. -/
theorem get_perform (engine : Engine α) (request : Request α) {other : Handle}
    (valid : engine.heap.Valid other) (apart : request.destination? ≠ some other) :
    (engine.perform request).state.heap.get other = engine.heap.get other := by
  cases engine.perform_effect request with
  | nothing _ _ same => rw [same]
  | written destination _ confined =>
    exact confined.others other fun equal => apart (equal ▸ destination)
  | @inserted tensor _ _ same =>
    have old : other ≠ (engine.heap.insert tensor).2 := fun equal => Nat.lt_irrefl _ (equal ▸ valid)
    rw [same, Heap.get_insert, if_neg old]

theorem valid_perform (engine : Engine α) (request : Request α) {handle : Handle}
    (valid : engine.heap.Valid handle) :
    (engine.perform request).state.heap.Valid handle := by
  unfold Heap.Valid at valid ⊢
  cases engine.perform_effect request with
  | nothing _ _ same => rwa [same]
  | written _ _ confined => rwa [confined.size]
  | inserted _ _ same =>
    rw [same]
    exact Nat.lt_of_lt_of_eq (Nat.lt_succ_of_lt valid) (Array.size_push _).symm

end Engine

structure Client (α : Type) where
  engine : Engine α
  -- What each handle stands for.
  held : List Handle
  -- Which handles are clones: the number of the original, then that of the clone.
  clones : List (Nat × Nat)

inductive Action (α : Type) where
  | clone (original : Nat)
  | call (request : Request α)

namespace Client

def start (configs : Nat → EngineConfig) (counting : Counting) : Client α :=
  ⟨.start configs counting, [], []⟩

/-- A client clones and passes on what it holds. -/
def Allows (client : Client α) : Action α → Prop
  | .clone original => original < client.held.length
  | .call request => ∀ handle ∈ request.handles, handle ∈ client.held

instance (client : Client α) (action : Action α) : Decidable (client.Allows action) :=
  match action with
  | .clone original => inferInstanceAs (Decidable (original < client.held.length))
  | .call request => inferInstanceAs (Decidable (∀ handle ∈ request.handles, handle ∈ client.held))

def read (client : Client α) (number : Nat) : Option (Tensor α) :=
  client.held[number]?.map client.engine.heap.get

/-- Handles that clones connect, in either direction and over any number of steps. -/
def Connected (client : Client α) : Nat → Nat → Prop :=
  Relation.EqvGen fun original clone => (original, clone) ∈ client.clones

/-- A call that has a destination reaches the handles that clones connect with it. -/
def Reaches (client : Client α) : Action α → Nat → Prop
  | .clone _, _ => False
  | .call request, number => ∃ dest, request.destination? = some dest ∧
      ∃ other, client.held[other]? = some dest ∧ client.Connected other number

variable [Zero α] [One α] [Add α] [Sub α] [Neg α] [Mul α] [Div α] [LT α] [LE α] [DecidableLT α]
  [DecidableLE α] [BEq α] [Elementary α] [Lowest α] [MatrixProduct α]

def act (client : Client α) : Action α → Client α
  | .clone original =>
    { client with
      held := client.held ++ client.held[original]?.toList
      clones := client.clones ++ [(original, client.held.length)] }
  | .call request =>
    { client with
      engine := (client.engine.perform request).state
      held := client.held ++ (client.engine.created? request).toList }

theorem act_clone {client : Client α} {original : Nat} (inside : original < client.held.length) :
    client.act (.clone original) = ⟨client.engine, client.held ++ [client.held[original]],
      client.clones ++ [(original, client.held.length)]⟩ := by
  simp [act, inside]

theorem act_call (client : Client α) (request : Request α) :
    client.act (.call request) = ⟨(client.engine.perform request).state,
      client.held ++ (client.engine.created? request).toList, client.clones⟩ := rfl

def Step (client next : Client α) : Prop :=
  ∃ action, client.Allows action ∧ client.act action = next

/-- A step that does not reach a handle. -/
def StepSparing (number : Nat) (client next : Client α) : Prop :=
  ∃ action, client.Allows action ∧ ¬ client.Reaches action number ∧ client.act action = next

def Reachable (configs : Nat → EngineConfig) (counting : Counting) : Client α → Prop :=
  Relation.ReflTransGen Step (start configs counting)

theorem step_of_sparing {number : Nat} {client next : Client α}
    (step : StepSparing number client next) :
    Step client next := by
  obtain ⟨action, allowed, -, acted⟩ := step
  exact ⟨action, allowed, acted⟩

end Client

end TensorEngine

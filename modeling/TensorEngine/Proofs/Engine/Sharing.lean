import TensorEngine.Proofs.Engine.Client
import TensorEngine.Proofs.Engine.Safety

/-! Which handles of a client share a tensor: those that clones connect, and no others. A
call changes the tensor of its destination alone, so every handle that shares it sees the
change, and no other handle does; a duplicate in particular never sees one that is made
through its source. -/

set_option autoImplicit false

namespace TensorEngine

open TensorEngine.Conv TensorEngine.Pool

variable {α : Type}

theorem Tensor.Regular.wrap_eq {tensor : Tensor α} (regular : tensor.Regular) :
    Tensor.wrap tensor.data tensor.shape = .ok tensor := by
  have descriptor : Descriptor.new.setSize tensor.shape = tensor.descriptor :=
    congrArg Descriptor.mk regular.rowMajor.symm
  have size : tensor.data.size = tensor.descriptor.count := regular.size
  unfold Tensor.wrap
  dsimp only
  rw [descriptor, if_pos size]

theorem Heap.Regular.duplicate_eq {heap : Heap α} (regular : heap.Regular) (source : Handle) :
    heap.duplicate source = .done (heap.insert (heap.get source)).1
      (heap.insert (heap.get source)).2 := by
  unfold Heap.duplicate Heap.create Heap.data Heap.shape
  rw [(regular source).wrap_eq]

namespace Client

theorem Connected.mono {client next : Client α} (kept : client.clones ⊆ next.clones)
    {first second : Nat} (connected : client.Connected first second) :
    next.Connected first second :=
  Relation.EqvGen.mono (fun _ _ link => kept link) first second connected

/-- The handles that share a tensor are those that clones connect, and all of them have one. -/
structure Shared (client : Client α) : Prop where
  valid : ∀ handle ∈ client.held, client.engine.heap.Valid handle
  links : ∀ original clone, (original, clone) ∈ client.clones →
    original < client.held.length ∧ clone < client.held.length ∧
      client.held[original]? = client.held[clone]?
  joined : ∀ first < client.held.length, ∀ second < client.held.length,
    client.held[first]? = client.held[second]? → client.Connected first second

section

variable {client : Client α} {first second : Nat}

theorem Shared.held_eq (shared : client.Shared) (connected : client.Connected first second) :
    client.held[first]? = client.held[second]? := by
  induction connected with
  | rel original clone link => exact (shared.links original clone link).2.2
  | refl _ => rfl
  | symm _ _ _ same => exact same.symm
  | trans _ _ _ _ _ before after => exact before.trans after

theorem Shared.held_eq_iff (shared : client.Shared) (inFirst : first < client.held.length)
    (inSecond : second < client.held.length) :
    client.held[first]? = client.held[second]? ↔ client.Connected first second :=
  ⟨shared.joined first inFirst second inSecond, shared.held_eq⟩

theorem Shared.read_eq (shared : client.Shared) (connected : client.Connected first second) :
    client.read first = client.read second := by
  unfold read
  rw [shared.held_eq connected]

theorem shared_start (configs : Nat → EngineConfig) (counting : Counting) :
    (start configs counting : Client α).Shared where
  valid := nofun
  links := nofun
  joined first inside := absurd inside (Nat.not_lt_zero first)

/-- Another handle is held, connected with all those that stand for the same tensor. -/
theorem Shared.extend (shared : client.Shared) {next : Client α} {handle : Handle}
    (held : next.held = client.held ++ [handle])
    (valid : ∀ other ∈ next.held, next.engine.heap.Valid other) (kept : client.clones ⊆ next.clones)
    (links : ∀ original clone, (original, clone) ∈ next.clones → (original, clone) ∈ client.clones ∨
      client.held[original]? = some handle ∧ clone = client.held.length)
    (connected : ∀ number, client.held[number]? = some handle →
      next.Connected number client.held.length) :
    next.Shared := by
  have length : next.held.length = client.held.length + 1 := by
    rw [held, List.length_append, List.length_singleton]
  have old : ∀ number < client.held.length, next.held[number]? = client.held[number]? :=
    fun _ inside => held ▸ List.getElem?_append_left inside
  have new : next.held[client.held.length]? = some handle := held ▸ List.getElem?_concat_length
  refine ⟨valid, ?_, ?_⟩
  · intro original clone link
    rw [length]
    rcases links original clone link with before | ⟨found, rfl⟩
    · obtain ⟨inOriginal, inClone, same⟩ := shared.links original clone before
      exact ⟨by omega, by omega, by rw [old original inOriginal, old clone inClone, same]⟩
    · have inside : original < client.held.length := (List.getElem?_eq_some_iff.mp found).1
      exact ⟨by omega, by omega, by rw [old original inside, new, found]⟩
  · intro first inFirst second inSecond same
    rw [length] at inFirst inSecond
    by_cases oldFirst : first < client.held.length
    · rw [old first oldFirst] at same
      by_cases oldSecond : second < client.held.length
      · rw [old second oldSecond] at same
        exact (shared.joined first oldFirst second oldSecond same).mono kept
      · obtain rfl : second = client.held.length := by omega
        exact connected first (same.trans new)
    · obtain rfl : first = client.held.length := by omega
      rw [new] at same
      by_cases oldSecond : second < client.held.length
      · rw [old second oldSecond] at same
        exact (connected second same.symm).symm
      · obtain rfl : second = client.held.length := by omega
        exact .refl _

end

variable [Zero α] [One α] [Add α] [Sub α] [Neg α] [Mul α] [Div α] [LT α] [LE α] [DecidableLT α]
  [DecidableLE α] [BEq α] [Elementary α] [Lowest α] [MatrixProduct α]

section

variable {client : Client α} (shared : client.Shared)

include shared

theorem Shared.clone {original : Nat} (inside : original < client.held.length) :
    (client.act (.clone original)).Shared := by
  have found : client.held[original]? = some client.held[original] :=
    List.getElem?_eq_getElem inside
  rw [act_clone inside]
  refine shared.extend rfl ?_ (List.subset_append_left ..) ?_ ?_
  · intro handle member
    rcases List.mem_append.mp member with before | last
    · exact shared.valid handle before
    · rw [List.mem_singleton.mp last]
      exact shared.valid _ (List.getElem_mem inside)
  · intro source clone link
    rcases List.mem_append.mp link with before | last
    · exact .inl before
    · obtain ⟨rfl, rfl⟩ := Prod.mk.inj (List.mem_singleton.mp last)
      exact .inr ⟨found, rfl⟩
  · -- What stands for the same tensor is connected with the original, which the clone is linked to.
    intro number same
    have before := shared.joined number (List.getElem?_eq_some_iff.mp same).1 original inside
      (same.trans found.symm)
    exact (before.mono (List.subset_append_left ..)).trans _ _ _ (.rel _ _ (by simp))

/-- A call adds no handle, or one for a tensor that no other handle stands for. -/
theorem Shared.call (request : Request α) : (client.act (.call request)).Shared := by
  have valid : ∀ handle ∈ client.held, (client.engine.perform request).state.heap.Valid handle :=
    fun handle member => client.engine.valid_perform request (shared.valid handle member)
  have unchanged (created : client.engine.created? request = none) :
      (client.act (.call request)).Shared := by
    rw [act_call, created, Option.toList_none, List.append_nil]
    exact ⟨valid, shared.links, shared.joined⟩
  cases client.engine.perform_effect request with
  | nothing _ created _ => exact unchanged created
  | written _ created _ => exact unchanged created
  | @inserted tensor _ created same =>
    rw [act_call, created, Option.toList_some]
    refine shared.extend rfl ?_ (List.Subset.refl _) (fun _ _ link => .inl link) ?_
    · intro handle member
      rcases List.mem_append.mp member with before | last
      · exact valid handle before
      · rw [List.mem_singleton.mp last]
        unfold Heap.Valid
        dsimp only
        rw [same]
        exact Nat.lt_of_lt_of_eq (Nat.lt_succ_self _) (Array.size_push _).symm
    · intro number equal
      exact absurd (shared.valid _ (List.mem_of_getElem? equal)) (Nat.lt_irrefl _)

theorem Shared.act {action : Action α} (allowed : client.Allows action) :
    (client.act action).Shared := by
  cases action with
  | clone original => exact shared.clone allowed
  | call request => exact shared.call request

-- Handles are never taken back and never come to stand for another tensor.
omit shared in
theorem held_act (client : Client α) (action : Action α) :
    client.held <+: (client.act action).held := by
  cases action with
  | clone original => exact List.prefix_append ..
  | call request => exact List.prefix_append ..

theorem Shared.read_act {action : Action α} {number : Nat} (inside : number < client.held.length)
    (spared : ¬ client.Reaches action number) :
    (client.act action).read number = client.read number := by
  have found : client.held[number]? = some client.held[number] := List.getElem?_eq_getElem inside
  have kept : (client.act action).held[number]? = some client.held[number] :=
    List.prefix_iff_getElem?.mp (client.held_act action) number inside
  unfold read
  rw [kept, found, Option.map_some, Option.map_some]
  cases action with
  | clone original => rfl
  | call request =>
    refine congrArg some
      (client.engine.get_perform request (shared.valid _ (List.getElem_mem inside)) ?_)
    exact fun destination => spared ⟨_, destination, number, found, .refl number⟩

theorem Shared.read_reached {request : Request α} {dest : Handle}
    (destination : request.destination? = some dest) {number : Nat}
    (reached : client.Reaches (.call request) number) :
    (client.act (.call request)).read number =
      some ((client.engine.perform request).state.heap.get dest) := by
  obtain ⟨_, same, other, found, connected⟩ := reached
  obtain rfl := Option.some.inj (destination.symm.trans same)
  rw [shared.held_eq connected] at found
  obtain ⟨inside, stands⟩ := List.getElem?_eq_some_iff.mp found
  have kept := List.prefix_iff_getElem?.mp (client.held_act (.call request)) number inside
  unfold read
  rw [kept, stands]
  rfl

end

/-! Runs of a client. -/

section

variable {configs : Nat → EngineConfig} {counting : Counting} {client later : Client α}

theorem Shared.step (shared : client.Shared) (step : Step client later) : later.Shared := by
  obtain ⟨action, allowed, rfl⟩ := step
  exact shared.act allowed

theorem Shared.steps (shared : client.Shared) (steps : Relation.ReflTransGen Step client later) :
    later.Shared := by
  induction steps with
  | refl => exact shared
  | tail _ step before => exact before.step step

theorem Reachable.shared (reachable : Reachable configs counting client) : client.Shared :=
  (shared_start configs counting).steps reachable

theorem Reachable.engine (reachable : Reachable configs counting client) :
    Engine.Reachable configs counting client.engine := by
  induction reachable with
  | refl => exact .start
  | tail before step engine =>
    obtain ⟨action, allowed, rfl⟩ := step
    cases action with
    | clone original => exact engine
    | call request =>
      exact .step engine fun handle member =>
        (Reachable.shared before).valid handle (allowed handle member)

theorem held_steps (steps : Relation.ReflTransGen Step client later) :
    client.held <+: later.held := by
  induction steps with
  | refl => exact List.prefix_refl _
  | tail _ step before =>
    obtain ⟨action, -, rfl⟩ := step
    exact before.trans (held_act _ action)

theorem Shared.read_steps (shared : client.Shared) {number : Nat}
    (inside : number < client.held.length)
    (steps : Relation.ReflTransGen (StepSparing number) client later) :
    later.read number = client.read number := by
  induction steps with
  | refl => rfl
  | @tail reached _ before step kept =>
    have steps := Relation.ReflTransGen.mono (fun _ _ => step_of_sparing) _ _ before
    obtain ⟨action, -, spared, rfl⟩ := step
    exact ((shared.steps steps).read_act (Nat.lt_of_lt_of_le inside (held_steps steps).length_le)
      spared).trans kept

/-- Duplicating always answers, with a handle of its own on a tensor like that of the source. -/
theorem Reachable.duplicate (reachable : Reachable configs counting client) {source : Nat}
    {handle : Handle} (held : client.held[source]? = some handle) :
    let after := client.act (.call (.duplicate handle))
    (client.engine.perform (.duplicate handle)).answer = .ok () ∧
      after.held = client.held ++ [⟨client.engine.heap.tensors.size⟩] ∧
      after.read client.held.length = client.read source := by
  have answered := reachable.engine.sound.tensors.duplicate_eq handle
  have created : client.engine.created? (.duplicate handle) =
      some ⟨client.engine.heap.tensors.size⟩ := by
    change (client.engine.heap.duplicate handle).answer.toOption = _
    rw [answered]
    rfl
  have performed : (client.engine.perform (.duplicate handle)).state.heap =
      (client.engine.heap.insert (client.engine.heap.get handle)).1 := by
    change (client.engine.heap.duplicate handle).state = _
    rw [answered]
    rfl
  refine ⟨?_, by rw [act_call, created, Option.toList_some], ?_⟩
  · change ((client.engine.heap.duplicate handle).answer.map fun _ => ()) = .ok ()
    rw [answered]
    rfl
  · rw [act_call, created]
    unfold read
    dsimp only
    rw [Option.toList_some, List.getElem?_concat_length, held, performed, Option.map_some,
      Option.map_some, Heap.get_insert]
    exact congrArg some (if_pos rfl)

end

/-- A call changes one tensor at most, that of its destination, on any engine. So in all
that a client does, handles share a tensor exactly when clones connect them, and then
read the same; after a call the handles connected with its destination read what the call
has left there, and all others what they read before. A duplicate reads what its source
does, is never connected with it, and reads the same for as long as no call reaches the
duplicate itself. -/
theorem writes_reach_one_tensor :
    (∀ (engine : Engine α) (request : Request α) (other : Handle), engine.heap.Valid other →
      request.destination? ≠ some other →
        (engine.perform request).state.heap.get other = engine.heap.get other) ∧
    ∀ (configs : Nat → EngineConfig) (counting : Counting) (client : Client α),
      Reachable configs counting client →
      (∀ first < client.held.length, ∀ second < client.held.length,
        (client.held[first]? = client.held[second]? ↔ client.Connected first second) ∧
          (client.Connected first second → client.read first = client.read second)) ∧
      (∀ request dest, request.destination? = some dest →
        ∀ number, client.Reaches (.call request) number →
        (client.act (.call request)).read number =
          some ((client.engine.perform request).state.heap.get dest)) ∧
      (∀ action, client.Allows action → ∀ number < client.held.length,
        ¬ client.Reaches action number → (client.act action).read number = client.read number) ∧
      ∀ source handle, client.held[source]? = some handle →
        let after := client.act (.call (.duplicate handle))
        let copy := client.held.length
        (client.engine.perform (.duplicate handle)).answer = .ok () ∧ after.held.length = copy + 1 ∧
          after.read copy = client.read source ∧
          (∀ later, Relation.ReflTransGen Step after later → ¬ later.Connected source copy) ∧
          ∀ later, Relation.ReflTransGen (StepSparing copy) after later →
            later.read copy = client.read source := by
  refine ⟨fun engine request other => engine.get_perform request,
    fun configs counting client reachable => ?_⟩
  have shared := reachable.shared
  refine ⟨fun first inFirst second inSecond =>
    ⟨shared.held_eq_iff inFirst inSecond, shared.read_eq⟩, fun request dest destination number =>
      shared.read_reached destination,
    fun action _ number inside spared => shared.read_act inside spared,
      fun source handle held => ?_⟩
  intro after copy
  obtain ⟨answered, longer, equal⟩ := reachable.duplicate held
  have length : after.held.length = copy + 1 := by
    rw [longer, List.length_append, List.length_singleton]
  have sharedAfter : after.Shared := shared.call _
  refine ⟨answered, length, equal, fun later steps connected => ?_, fun later steps => ?_⟩
  · -- The copy stands for a tensor that the heap did not have when the source was held.
    have kept := List.prefix_iff_getElem?.mp (held_steps steps)
    have inside : source < client.held.length := (List.getElem?_eq_some_iff.mp held).1
    have onSource : later.held[source]? = some handle := by
      rw [kept source (by omega), ← List.getElem?_eq_getElem, longer,
        List.getElem?_append_left inside, held]
    have onCopy : later.held[copy]? = some ⟨client.engine.heap.tensors.size⟩ := by
      rw [kept copy (by omega), ← List.getElem?_eq_getElem, longer, List.getElem?_concat_length]
    have same := (sharedAfter.steps steps).held_eq connected
    rw [onSource, onCopy] at same
    have valid := shared.valid handle (List.mem_of_getElem? held)
    exact Nat.lt_irrefl _ (Option.some.inj same ▸ valid)
  · exact (sharedAfter.read_steps (by omega) steps).trans equal

theorem writes_reach_one_tensor_rectified :
    let created : Client Float32 := (start (fun _ => ⟨0, .limit 48⟩) .words).act
      (.call (.create #[Float32.ofBits 0x7fc00000, -2] ⟨1, 1, 2, 1⟩))
    let cloned := created.act (.clone 0)
    let duplicated := cloned.act (.call (.duplicate ⟨0⟩))
    let rectify : Request Float32 := .activate .relu ⟨1⟩ ⟨0⟩
    let rectified := duplicated.act (.call rectify)
    (duplicated.engine.perform rectify).state.heap.get ⟨0⟩ = duplicated.engine.heap.get ⟨0⟩ ∧
      rectified.Connected 0 1 ∧ rectified.read 0 = rectified.read 1 ∧
      rectified.read 2 = some ((duplicated.engine.perform rectify).state.heap.get ⟨1⟩) ∧
      rectified.read 1 = duplicated.read 1 ∧ duplicated.read 2 = cloned.read 1 ∧
        ¬ rectified.Connected 1 2 := by
  intro created cloned duplicated rectify rectified
  have toCloned : Reachable (fun _ => ⟨0, .limit 48⟩) .words cloned :=
    (Relation.ReflTransGen.single ⟨_, by decide, rfl⟩).tail ⟨_, by decide, rfl⟩
  have toDuplicated : Reachable (fun _ => ⟨0, .limit 48⟩) .words duplicated :=
    toCloned.tail ⟨_, by decide, rfl⟩
  have last : Step duplicated rectified := ⟨.call rectify, by decide, rfl⟩
  obtain ⟨_, reached, spared, -⟩ := writes_reach_one_tensor.2 _ _ duplicated toDuplicated
  obtain ⟨sharing, -, -, -⟩ := writes_reach_one_tensor.2 _ _ rectified (toDuplicated.tail last)
  obtain ⟨-, -, -, copies⟩ := writes_reach_one_tensor.2 _ _ cloned toCloned
  obtain ⟨-, -, equal, apart, -⟩ := copies 1 ⟨0⟩ rfl
  have connected : rectified.Connected 0 1 := (sharing 0 (by decide) 1 (by decide)).1.mp rfl
  refine ⟨writes_reach_one_tensor.1 _ rectify ⟨0⟩ (by decide) (by decide), connected,
    (sharing 0 (by decide) 1 (by decide)).2 connected, ?_, ?_, equal,
      apart rectified (.single last)⟩
  · exact reached rectify ⟨1⟩ rfl 2 ⟨⟨1⟩, rfl, 2, rfl, .refl 2⟩
  · refine spared (.call rectify) (by decide) 1 (by decide) ?_
    rintro ⟨dest, destination, other, found, joined⟩
    cases destination
    have same := toDuplicated.shared.held_eq joined
    rw [found] at same
    cases same

end Client

end TensorEngine

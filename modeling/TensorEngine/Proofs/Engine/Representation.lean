import TensorEngine.Proofs.Engine.Sharing

/-! The representation of tensors. Shape, strides and storage of a tensor are kept apart
and set at different times; in every state that a client brings about they agree. The
only calls that change the shape of a tensor resize it first, and go on from there. -/

set_option autoImplicit false

namespace TensorEngine

open TensorEngine.Conv TensorEngine.Pool

variable {α : Type}

/-- A shape, its row-major strides, and storage for as many elements as the shape has. -/
structure Tensor.Represented (tensor : Tensor α) : Prop where
  layout : tensor.layout = Layout.ofShape tensor.shape
  dims : tensor.shape = ⟨0, 0, 0, 0⟩ ∨
    0 < tensor.shape.samples ∧ 0 < tensor.shape.channels ∧ 0 < tensor.shape.rows ∧
      0 < tensor.shape.cols
  strides : tensor.layout.strides = ⟨tensor.shape.channels * tensor.shape.rows * tensor.shape.cols,
    tensor.shape.rows * tensor.shape.cols, tensor.shape.cols, 1⟩
  storage : tensor.data.size =
    tensor.shape.samples * tensor.shape.channels * tensor.shape.rows * tensor.shape.cols

theorem Tensor.Regular.represented {tensor : Tensor α} (regular : tensor.Regular) :
    tensor.Represented where
  layout := regular.rowMajor
  dims := regular.rowMajor.empty_or_holds.imp_right Shape.pos_of_count
  strides := regular.rowMajor.strides_eq
  storage := regular.size

namespace Heap

/-- What a resize leaves: the elements there were, if there are as many as before, else zeros. -/
structure Resized [Zero α] (dest : Handle) (shape : Shape) (before after : Heap α) : Prop where
  layout : after.layout dest = Layout.ofShape shape
  kept : shape.collapse.count = (before.shape dest).count → after.data dest = before.data dest
  cleared : shape.collapse.count ≠ (before.shape dest).count →
    after.data dest = Buffer.zeros shape.collapse.count
  others : ∀ other, other ≠ dest → after.get other = before.get other

theorem Regular.resized_setSize [Zero α] {heap : Heap α} (regular : heap.Regular) {dest : Handle}
    (valid : heap.Valid dest) (shape : Shape) :
    Resized dest shape heap (heap.setSize dest shape).state := by
  have size : (heap.get dest).data.size = (heap.shape dest).count := (regular dest).size
  have data : (heap.setSize dest shape).state.data dest =
      resized (heap.get dest).data shape.collapse.count :=
    congrArg Tensor.data (get_put_self valid _)
  obtain ⟨layout, others⟩ := heap.get_setSize valid shape
  refine ⟨layout, ?_, ?_, others⟩
  · intro same
    rw [data, resized, if_pos (size.trans same.symm)]
    rfl
  · intro different
    rw [data, resized, if_neg (fun same => different (same.symm.trans size))]

end Heap

namespace Engine

variable [Zero α] [One α] [Add α] [Mul α] [LT α] [DecidableLT α] [Lowest α] [MatrixProduct α]

/-- The calls that resize a tensor, to what shape, and how they go on once they have done so. -/
inductive Resizes (engine : Engine α) :
    Request α → Handle → Shape → (Heap α → Outcome (Engine α) (Event α) Unit) → Prop where
  | asked (dest : Handle) (shape : Shape) :
    Resizes engine (.setSize dest shape) dest shape fun heap => .done { engine with heap } ()
  | convolved {operator : Nat} {output data filters : Handle} {plan : Plan α}
      (checked : engine.heap.checkForward (engine.convolutions operator) output data filters =
        .ok plan) :
    Resizes engine (.convForward operator output data filters) output plan.geometry.output.dims
      fun heap => engine.onConvolution operator
        (heap.convolve (engine.convolutions operator) plan .forward output data filters)
  | pooled {operator : Nat} {dest src : Handle} {geometry : Pool.Geometry}
      (checked : engine.heap.checkPool (engine.pools operator) dest src = .ok geometry) :
    Resizes engine (.pool operator dest src) dest geometry.dest.dims fun heap =>
      engine.onHeap (heap.write dest [src] fun data =>
        Heap.inRange (maxForward geometry data (heap.data src)))

variable {engine : Engine α} {request : Request α} {dest : Handle} {shape : Shape}
  {next : Heap α → Outcome (Engine α) (Event α) Unit}

theorem Resizes.mem_handles (resizes : engine.Resizes request dest shape next) :
    dest ∈ request.handles := by
  cases resizes <;> simp [Request.handles]

theorem Resizes.layout_next (resizes : engine.Resizes request dest shape next) (heap : Heap α)
    (other : Handle) :
    (next heap).state.heap.layout other = heap.layout other := by
  cases resizes with
  | asked => rfl
  | convolved => exact (Heap.rewritten_convolve heap _ _ .forward dest _ _).layout other
  | pooled => exact (Heap.rewritten_write heap dest _ _).layout other

variable [Sub α] [Neg α] [Div α] [LE α] [DecidableLE α] [BEq α] [Elementary α]

theorem Resizes.perform_eq (resizes : engine.Resizes request dest shape next) :
    let resized := (engine.heap.setSize dest shape).state
    (engine.perform request).answer = (next resized).answer ∧
      (engine.perform request).state = (next resized).state := by
  cases resizes with
  | asked => exact ⟨rfl, rfl⟩
  | @convolved operator _ data filters plan checked =>
    have performed : engine.perform (.convForward operator dest data filters) =
      engine.onConvolution operator
        (engine.heap.convolveForward (engine.convolutions operator) dest data filters) := rfl
    rw [performed, Heap.convolveForward, checked]
    exact ⟨rfl, rfl⟩
  | @pooled operator _ src geometry checked =>
    have performed : engine.perform (.pool operator dest src) =
      engine.onHeap (engine.heap.pool (engine.pools operator) dest src) := rfl
    rw [performed, Heap.pool, checked]
    exact ⟨rfl, rfl⟩

theorem Resizes.layout_perform (resizes : engine.Resizes request dest shape next)
    (valid : engine.heap.Valid dest) :
    (engine.perform request).state.heap.layout dest = Layout.ofShape shape := by
  rw [resizes.perform_eq.2, resizes.layout_next]
  exact (engine.heap.get_setSize valid shape).1

/-- A call that does not resize a tensor keeps its layout. -/
theorem layout_perform {handle : Handle} (valid : engine.heap.Valid handle)
    (kept : ∀ shape next, ¬ engine.Resizes request handle shape next) :
    (engine.perform request).state.heap.layout handle = engine.heap.layout handle := by
  have elsewhere (apart : request.destination? ≠ some handle) :
      (engine.perform request).state.heap.layout handle = engine.heap.layout handle :=
    congrArg Tensor.layout (engine.get_perform request valid apart)
  cases request with
  | create | createZeros | duplicate | convSetup | convClear | poolSetup | poolClear =>
    exact elsewhere nofun
  | setSize dest shape =>
    apply elsewhere
    rintro ⟨⟩
    exact kept shape _ (.asked _ shape)
  | setHost dest values => exact (Heap.rewritten_setHost _ dest values).layout handle
  | fill dest value => exact (Heap.rewritten_fill _ dest value).layout handle
  | scale dest factor => exact (Heap.rewritten_scale _ dest factor).layout handle
  | add beta dest alpha src => exact (Heap.rewritten_add _ beta dest alpha src).layout handle
  | biasGradient bias gradient =>
    exact (Heap.rewritten_addBiasGradient _ bias gradient).layout handle
  | activate activation dest src =>
    exact (Heap.rewritten_activate _ activation dest src).layout handle
  | activationGradient activation gradient outputs outputGradient =>
    exact (Heap.rewritten_activationGradient _ activation gradient outputs outputGradient).layout
      handle
  | convForward operator output data filters =>
    cases checked : engine.heap.checkForward (engine.convolutions operator) output data filters with
    | error error =>
      have performed : engine.perform (.convForward operator output data filters) =
        engine.onConvolution operator
        (engine.heap.convolveForward (engine.convolutions operator) output data filters) := rfl
      rw [performed, Heap.convolveForward, checked]
      rfl
    | ok plan =>
      apply elsewhere
      rintro ⟨⟩
      exact kept _ _ (.convolved checked)
  | convDataGradient operator outputGradient filters dataGradient =>
    exact (Heap.rewritten_addDataGradient _ _ outputGradient filters dataGradient).layout handle
  | convFilterGradient operator outputGradient data filterGradient =>
    exact (Heap.rewritten_assignFilterGradient _ _ outputGradient data filterGradient).layout handle
  | pool operator dest src =>
    cases checked : engine.heap.checkPool (engine.pools operator) dest src with
    | error failure =>
      have performed : engine.perform (.pool operator dest src) =
        engine.onHeap (engine.heap.pool (engine.pools operator) dest src) := rfl
      rw [performed, Heap.pool, checked]
      rfl
    | ok geometry =>
      apply elsewhere
      rintro ⟨⟩
      exact kept _ _ (.pooled checked)
  | poolGradient operator outputGradient dest src gradient =>
    exact (Heap.rewritten_addPoolGradient _ _ outputGradient dest src gradient).layout handle

end Engine

namespace Client

variable [Zero α] [One α] [Add α] [Sub α] [Neg α] [Mul α] [Div α] [LT α] [LE α] [DecidableLT α]
  [DecidableLE α] [BEq α] [Elementary α] [Lowest α] [MatrixProduct α] {configs : Nat → EngineConfig}
  {counting : Counting} {client : Client α}

/-- In all that a client brings about, failed calls included, every tensor that it has a
handle for is represented as its shape says. A call changes the layout of such a tensor
only if it resizes it. The resize keeps the elements if their number stays and clears
them if not, and the rest of the call starts from what the resize has left. -/
theorem Reachable.tensors_represented (reachable : Reachable configs counting client) :
    (∀ number tensor, client.read number = some tensor → tensor.Represented) ∧
    ∀ request, client.Allows (.call request) →
      (∀ dest shape next, client.engine.Resizes request dest shape next →
        let resized := (client.engine.heap.setSize dest shape).state
        Heap.Resized dest shape client.engine.heap resized ∧
          (client.engine.perform request).state = (next resized).state) ∧
      ∀ handle ∈ client.held, (∀ shape next, ¬ client.engine.Resizes request handle shape next) →
        (client.engine.perform request).state.heap.layout handle =
          client.engine.heap.layout handle := by
  have regular := reachable.engine.sound.tensors
  have valid := reachable.shared.valid
  refine ⟨?_, fun request allowed => ⟨fun dest shape next resizes => ?_, fun handle member => ?_⟩⟩
  · intro number tensor found
    obtain ⟨handle, -, rfl⟩ := Option.map_eq_some_iff.mp found
    exact (regular handle).represented
  · exact ⟨regular.resized_setSize (valid dest (allowed dest resizes.mem_handles)) shape,
      resizes.perform_eq.2⟩
  · exact Engine.layout_perform (valid handle member)

theorem tensors_represented_pooled :
    let created : Client Float32 := (start (fun _ => ⟨0, .limit 48⟩) .words).act
      (.call (.create #[Float32.ofBits 0x7fc00000, 2] ⟨1, 1, 2, 1⟩))
    let refused := (created.act (.clone 0)).act (.call (.create #[1] ⟨1, 1, 2, 1⟩))
    let configured :=
      (refused.act (.call (.createZeros ⟨1, 3, 1, 1⟩))).act (.call (.poolSetup 0 ⟨(2, 1), (2, 1)⟩))
    let heap := configured.engine.heap
    (∃ tensor, configured.read 1 = some tensor ∧ tensor.Represented) ∧
      (heap.setSize ⟨0⟩ ⟨2, 1, 1, 1⟩).state.data ⟨0⟩ = heap.data ⟨0⟩ ∧
      (heap.setSize ⟨1⟩ ⟨1, 1, 1, 1⟩).state.data ⟨1⟩ = Buffer.zeros 1 ∧
      (configured.engine.perform (.pool 0 ⟨1⟩ ⟨0⟩)).state.heap.layout ⟨0⟩ = heap.layout ⟨0⟩ := by
  intro created refused configured heap
  have reachable : Reachable (fun _ => ⟨0, .limit 48⟩) .words configured :=
    ((((Relation.ReflTransGen.single ⟨_, by decide, rfl⟩).tail ⟨.clone 0, by decide, rfl⟩).tail
      ⟨_, by decide, rfl⟩).tail ⟨_, by decide, rfl⟩).tail ⟨_, by decide, rfl⟩
  obtain ⟨represented, calls⟩ := reachable.tensors_represented
  obtain ⟨resized, -⟩ := calls (.setSize ⟨0⟩ ⟨2, 1, 1, 1⟩) (by decide)
  obtain ⟨pooled, kept⟩ := calls (.pool 0 ⟨1⟩ ⟨0⟩) (by decide)
  have window : (configured.engine.pools 0).current = .ok ⟨(2, 1), (2, 1)⟩ := rfl
  have source : heap.layout ⟨0⟩ = Layout.ofShape ⟨1, 1, 2, 1⟩ := rfl
  have checked : heap.checkPool (configured.engine.pools 0) ⟨1⟩ ⟨0⟩ =
      .ok ⟨⟨(2, 1), (2, 1)⟩, Layout.ofShape ⟨1, 1, 2, 1⟩, Layout.ofShape ⟨1, 1, 1, 1⟩⟩ := by
    unfold Heap.checkPool
    rw [window, source]
    rfl
  refine ⟨⟨_, rfl, represented 1 _ rfl⟩, ?_, ?_, ?_⟩
  · exact (resized _ _ _ (.asked _ _)).1.kept rfl
  · exact (pooled _ _ _ (.pooled checked)).1.cleared (by decide)
  · refine kept ⟨0⟩ (by decide) fun shape next resizes => ?_
    cases resizes

end Client

end TensorEngine

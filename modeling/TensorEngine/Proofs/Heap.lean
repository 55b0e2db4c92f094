import TensorEngine.Heap.Basic
import TensorEngine.Proofs.Layout

/-! Regular tensors: a row-major layout, and as many elements as it counts. What the
checks in front of a call establish is stated here as well. -/

set_option autoImplicit false

namespace TensorEngine

theorem bind_eq_ok_iff {ε β γ : Type} {first : Except ε β} {next : β → Except ε γ} {result : γ} :
    (first >>= next) = .ok result ↔ ∃ value, first = .ok value ∧ next value = .ok result := by
  cases first with
  | error error =>
    simp only [reduceCtorEq, false_and, exists_false, iff_false]
    nofun
  | ok value => simp [bind, Except.bind]

variable {α : Type}

structure Tensor.Regular (tensor : Tensor α) : Prop where
  rowMajor : tensor.layout.RowMajor
  size : tensor.data.size = tensor.layout.count

theorem Tensor.regular_setSize (descriptor : Descriptor) (shape : Shape) {data : Array α}
    (size : data.size = shape.count) : Tensor.Regular ⟨descriptor.setSize shape, data⟩ :=
  ⟨Layout.rowMajor_ofShape shape, size.trans (Layout.count_ofShape shape).symm⟩

theorem Tensor.Regular.withData {tensor : Tensor α} (regular : tensor.Regular) {data : Array α}
    (size : data.size = tensor.data.size) : Tensor.Regular { tensor with data } :=
  ⟨regular.rowMajor, size.trans regular.size⟩

theorem Tensor.regular_of_wrap {data : Array α} {shape : Shape} {tensor : Tensor α}
    (wrapped : Tensor.wrap data shape = .ok tensor) : tensor.Regular := by
  unfold Tensor.wrap at wrapped
  dsimp only at wrapped
  split at wrapped
  · rename_i size
    cases wrapped
    exact Tensor.regular_setSize Descriptor.new shape (size.trans (Descriptor.count_setSize _ _))
  · cases wrapped

namespace Heap

def Regular (heap : Heap α) : Prop := ∀ handle, (heap.get handle).Regular

theorem regular_empty : (empty : Heap α).Regular :=
  fun _ => Tensor.regular_setSize Descriptor.new Shape.empty rfl

variable {heap : Heap α}

theorem Regular.create (regular : heap.Regular) (data : Array α) (shape : Shape) :
    (heap.create data shape).state.Regular := by
  unfold Heap.create
  cases wrapped : Tensor.wrap data shape with
  | error error => exact regular
  | ok tensor =>
    intro handle
    change (((heap.insert tensor).1).get handle).Regular
    rw [get_insert]
    split
    · exact Tensor.regular_of_wrap wrapped
    · exact regular handle

theorem Regular.put (regular : heap.Regular) {handle : Handle} (valid : heap.Valid handle)
    {tensor : Tensor α} (new : tensor.Regular) : (heap.put handle tensor).Regular := by
  intro other
  rw [get_put heap handle other tensor valid]
  split
  · exact new
  · exact regular other

-- What no object of the heap stands behind is empty.
theorem valid_of_holds {handle : Handle} (holds : 0 < (heap.layout handle).count) :
    heap.Valid handle := by
  by_contra beyond
  have nothing : heap.get handle = Tensor.empty := by
    unfold get
    rw [Array.getD_eq_getD_getElem?, Array.getElem?_eq_none (Nat.le_of_not_lt beyond),
      Option.getD_none]
  have empty : (heap.layout handle).count = 0 := congrArg (·.layout.count) nothing
  exact Nat.ne_of_gt holds empty

@[simp] theorem valid_put {handle other : Handle} {tensor : Tensor α} :
    (heap.put handle tensor).Valid other ↔ heap.Valid other := by
  unfold Valid
  rw [size_put]

theorem put_put (heap : Heap α) (handle : Handle) (first second : Tensor α) :
    (heap.put handle first).put handle second = heap.put handle second := by
  simp [put]

theorem get_put_self {handle : Handle} (valid : heap.Valid handle) (tensor : Tensor α) :
    (heap.put handle tensor).get handle = tensor :=
  (get_put heap handle handle tensor valid).trans (if_pos rfl)

theorem Regular.size_of_shape (regular : heap.Regular) {handle : Handle} {shape : Shape}
    (same : heap.shape handle = shape) : (heap.data handle).size = shape.count :=
  (regular handle).size.trans (congrArg Shape.count same)

theorem Regular.layout_eq (regular : heap.Regular) {one other : Handle}
    (same : heap.shape one = heap.shape other) :
    heap.layout one = heap.layout other :=
  (regular one).rowMajor.trans ((congrArg Layout.ofShape same).trans (regular other).rowMajor.symm)

theorem Regular.store (regular : heap.Regular) {handle : Handle} (valid : heap.Valid handle)
    {data : Array α} (size : data.size = (heap.data handle).size) :
    (heap.store handle data).Regular :=
  regular.put valid ((regular handle).withData size)

theorem get_store_self {handle : Handle} (valid : heap.Valid handle) (data : Array α) :
    (heap.store handle data).get handle = ⟨(heap.get handle).descriptor, data⟩ :=
  get_put_self valid _

theorem data_store_self {handle : Handle} (valid : heap.Valid handle) (data : Array α) :
    (heap.store handle data).data handle = data :=
  (data_store heap handle handle data valid).trans (if_pos rfl)

theorem shape_store {handle : Handle} (valid : heap.Valid handle) (other : Handle)
    (data : Array α) :
    (heap.store handle data).shape other = heap.shape other :=
  congrArg Layout.dims (layout_store heap handle other data valid)

theorem store_store {handle : Handle} (valid : heap.Valid handle) (first second : Array α) :
    (heap.store handle first).store handle second = heap.store handle second := by
  unfold store
  rw [get_put_self valid, put_put]

@[simp] theorem size_resized [Zero α] (data : Array α) (count : Nat) :
    (resized data count).size = count := by
  unfold resized
  split
  · assumption
  · exact Buffer.size_zeros count

theorem Regular.setSize [Zero α] (regular : heap.Regular) {handle : Handle}
    (valid : heap.Valid handle) (shape : Shape) : (heap.setSize handle shape).state.Regular := by
  intro other
  change ((heap.put handle _).get other).Regular
  rw [get_put heap handle other _ valid]
  split
  · exact Tensor.regular_setSize _ shape ((size_resized _ _).trans (Descriptor.count_setSize _ _))
  · exact regular other

theorem get_setSize [Zero α] (heap : Heap α) {handle : Handle} (valid : heap.Valid handle)
    (shape : Shape) :
    ((heap.setSize handle shape).state.layout handle = Layout.ofShape shape) ∧
      ∀ other, other ≠ handle → (heap.setSize handle shape).state.get other = heap.get other := by
  have put := fun other => get_put heap handle other
    ⟨(heap.get handle).descriptor.setSize shape,
      resized (heap.get handle).data shape.collapse.count⟩ valid
  constructor
  · exact congrArg Tensor.layout ((put handle).trans (if_pos rfl))
  · exact fun other different => (put other).trans (if_neg different)

theorem size_setSize [Zero α] {handle : Handle} (valid : heap.Valid handle) (shape : Shape) :
    ((heap.setSize handle shape).state.data handle).size = shape.count := by
  have put := congrArg Tensor.data (get_put_self valid
    ⟨(heap.get handle).descriptor.setSize shape,
      resized (heap.get handle).data shape.collapse.count⟩)
  exact (congrArg Array.size put).trans ((size_resized _ _).trans (Shape.count_collapse shape))

theorem expectShape_eq_ok_iff {expected actual : Shape} {value : Unit} :
    expectShape expected actual = .ok value ↔ actual = expected := by
  unfold expectShape
  split <;> simp_all

theorem distinct_eq_ok_iff {operation : String} {first second : String × Handle} {value : Unit} :
    distinct operation first second = .ok value ↔ first.2 ≠ second.2 := by
  unfold distinct
  split <;> simp_all

theorem write_of_eq_ok {dest : Handle} {inputs : List Handle}
    {kernel : Array α → Except Failure (Array α)} {result : Array α} (separate : dest ∉ inputs)
    (ran : kernel (heap.data dest) = .ok result) :
    (heap.write dest inputs kernel : Outcome (Heap α) (Event α) Unit) =
      .done (heap.store dest result) () := by
  unfold write
  rw [if_neg separate, ran]

end Heap

end TensorEngine

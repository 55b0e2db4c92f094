import TensorEngine.Buffer
import TensorEngine.Descriptor
import TensorEngine.Event
import TensorEngine.Outcome

/-! Tensors as shared objects. A handle stands for one object in the heap; copies
of a handle stand for the same object, so two operands of a call may be one. -/

set_option autoImplicit false

namespace TensorEngine

/-- One tensor: its size descriptor and its elements in flat storage. -/
structure Tensor (α : Type) where
  descriptor : Descriptor
  data : Array α

namespace Tensor

variable {α : Type}

def empty : Tensor α := ⟨Descriptor.new.setSize Shape.empty, #[]⟩

instance : Inhabited (Tensor α) := ⟨empty⟩

def layout (tensor : Tensor α) : Layout := tensor.descriptor.layout

def shape (tensor : Tensor α) : Shape := tensor.layout.dims

def wrap (data : Array α) (shape : Shape) : Except Error (Tensor α) :=
  let descriptor := Descriptor.new.setSize shape
  if data.size = descriptor.count then .ok ⟨descriptor, data⟩
  else .error (.shapeMismatch shape.toList [data.size])

end Tensor

structure Handle where
  index : Nat
  deriving DecidableEq

structure Heap (α : Type) where
  tensors : Array (Tensor α)

namespace Heap

variable {α β : Type}

def empty : Heap α := ⟨#[]⟩

def Valid (heap : Heap α) (handle : Handle) : Prop := handle.index < heap.tensors.size

instance (heap : Heap α) (handle : Handle) : Decidable (heap.Valid handle) :=
  inferInstanceAs (Decidable (_ < _))

def get (heap : Heap α) (handle : Handle) : Tensor α :=
  heap.tensors.getD handle.index Tensor.empty

def data (heap : Heap α) (handle : Handle) : Array α := (heap.get handle).data

def layout (heap : Heap α) (handle : Handle) : Layout := (heap.get handle).layout

def shape (heap : Heap α) (handle : Handle) : Shape := (heap.get handle).shape

def put (heap : Heap α) (handle : Handle) (tensor : Tensor α) : Heap α :=
  ⟨heap.tensors.setIfInBounds handle.index tensor⟩

def store (heap : Heap α) (handle : Handle) (data : Array α) : Heap α :=
  heap.put handle { heap.get handle with data }

def insert (heap : Heap α) (tensor : Tensor α) : Heap α × Handle :=
  (⟨heap.tensors.push tensor⟩, ⟨heap.tensors.size⟩)

theorem get_put (heap : Heap α) (handle other : Handle) (tensor : Tensor α)
    (valid : heap.Valid handle) :
    (heap.put handle tensor).get other = if other = handle then tensor else heap.get other := by
  unfold Valid at valid
  by_cases same : other = handle
  · subst same
    simp [get, put, Array.getD_eq_getD_getElem?, valid]
  · have differ : handle.index ≠ other.index :=
      fun h => same (by cases handle; cases other; simp_all)
    simp [get, put, Array.getD_eq_getD_getElem?, same, differ]

@[simp] theorem size_put (heap : Heap α) (handle : Handle) (tensor : Tensor α) :
    (heap.put handle tensor).tensors.size = heap.tensors.size := by
  simp [put]

theorem data_store (heap : Heap α) (handle other : Handle) (data : Array α)
    (valid : heap.Valid handle) :
    (heap.store handle data).data other = if other = handle then data else heap.data other := by
  unfold store Heap.data
  rw [get_put heap handle other _ valid]
  split <;> rfl

theorem layout_store (heap : Heap α) (handle other : Handle) (data : Array α)
    (valid : heap.Valid handle) :
    (heap.store handle data).layout other = heap.layout other := by
  unfold store Heap.layout
  rw [get_put heap handle other _ valid]
  split
  · rename_i same
    rw [same]
    rfl
  · rfl

theorem get_insert (heap : Heap α) (tensor : Tensor α) (other : Handle) :
    (heap.insert tensor).1.get other =
      if other = (heap.insert tensor).2 then tensor else heap.get other := by
  by_cases new : other.index = heap.tensors.size
  · have same : other = ⟨heap.tensors.size⟩ := by
      cases other
      simp_all
    simp [get, insert, same, Array.getD_eq_getD_getElem?]
  · have differ : other ≠ ⟨heap.tensors.size⟩ := fun h => new (by simp [h])
    simp [get, insert, differ, new, Array.getD_eq_getD_getElem?, Array.getElem?_push]

/-! Creating tensors. -/

def create (heap : Heap α) (data : Array α) (shape : Shape) : Outcome (Heap α) (Event α) Handle :=
  match Tensor.wrap data shape with
  | .error error => .refuse heap error
  | .ok tensor =>
    let inserted := heap.insert tensor
    .done inserted.1 inserted.2

def createZeros [Zero α] (heap : Heap α) (shape : Shape) : Outcome (Heap α) (Event α) Handle :=
  heap.create (Buffer.zeros (Layout.ofShape shape).count) shape

def duplicate (heap : Heap α) (handle : Handle) : Outcome (Heap α) (Event α) Handle :=
  heap.create (heap.data handle) (heap.shape handle)

/-! Sizes and elements. -/

-- Storage of `count` elements: the old one if it has that many, else zeros.
def resized [Zero α] (data : Array α) (count : Nat) : Array α :=
  if data.size = count then data else Buffer.zeros count

def setSize [Zero α] (heap : Heap α) (handle : Handle) (shape : Shape) :
    Outcome (Heap α) (Event α) Unit :=
  let tensor := heap.get handle
  let descriptor := tensor.descriptor.setSize shape
  let events := if tensor.data.size = descriptor.count then [] else [.reallocated descriptor.count]
  ⟨.ok (), heap.put handle ⟨descriptor, resized tensor.data descriptor.count⟩, events⟩

def setHost (heap : Heap α) (handle : Handle) (values : Array α) :
    Outcome (Heap α) (Event α) Unit :=
  match Buffer.assign (heap.data handle) values with
  | .error error => .refuse heap error
  | .ok data => .done (heap.store handle data) ()

/-! Running kernels. -/

/-- Runs a kernel on the elements of one object. The kernel has them to itself:
none of its inputs may be that object. -/
def write (heap : Heap α) (dest : Handle) (inputs : List Handle)
    (kernel : Array α → Except Failure (Array α)) : Outcome (Heap α) (Event α) Unit :=
  if dest ∈ inputs then .fail heap (.fault .sharedWrite)
  else
    match kernel (heap.data dest) with
    | .error failure => .fail heap failure
    | .ok data => .done (heap.store dest data) ()

def refusable (result : Except Error β) : Except Failure β := result.mapError .refused

def inRange : Option β → Except Failure β
  | some value => .ok value
  | none => .error (.fault .outOfRange)

def distinct (operation : String) (first second : String × Handle) : Except Error Unit :=
  if first.2 = second.2 then .error (.sharedStorage operation first.1 second.1) else .ok ()

def expectShape (expected actual : Shape) : Except Error Unit :=
  if actual = expected then .ok () else .error (.shapeMismatch expected.toList actual.toList)

end Heap

end TensorEngine

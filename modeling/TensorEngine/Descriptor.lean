import TensorEngine.Layout

/-! Size descriptors: the cached layout of one tensor, recomputed only when a
size is set, and moved rather than copied. -/

set_option autoImplicit false

namespace TensorEngine

structure Descriptor where
  layout : Layout
  deriving DecidableEq

namespace Descriptor

def new : Descriptor := ⟨Layout.blank⟩

instance : Inhabited Descriptor := ⟨new⟩

def setSize (_ : Descriptor) (shape : Shape) : Descriptor := ⟨Layout.ofShape shape⟩

def size (descriptor : Descriptor) : Shape := descriptor.layout.dims

def count (descriptor : Descriptor) : Nat := descriptor.layout.count

/-- Moves the descriptor out: first what was taken, then what stays behind. -/
def take (descriptor : Descriptor) : Descriptor × Descriptor := (descriptor, new)

@[simp] theorem size_setSize (descriptor : Descriptor) (shape : Shape) :
    (descriptor.setSize shape).size = shape.collapse := rfl

@[simp] theorem count_setSize (descriptor : Descriptor) (shape : Shape) :
    (descriptor.setSize shape).count = shape.count := Layout.count_ofShape shape

end Descriptor

end TensorEngine

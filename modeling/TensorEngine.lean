import TensorEngine.Precision
import TensorEngine.Session.Run
import TensorEngine.Proofs.Conv.Adjoint
import TensorEngine.Proofs.Conv.Caching
import TensorEngine.Proofs.Conv.Correlation
import TensorEngine.Proofs.Conv.Padding
import TensorEngine.Proofs.Conv.Subsampling
import TensorEngine.Proofs.Engine.Bounds
import TensorEngine.Proofs.Engine.Destination
import TensorEngine.Proofs.Engine.Representation
import TensorEngine.Proofs.Gradient.CentralDifference
import TensorEngine.Proofs.Gradient.Comparison
import TensorEngine.Proofs.Gradient.Offender
import TensorEngine.Proofs.Gradient.Restoration
import TensorEngine.Proofs.Heap.Aliasing
import TensorEngine.Proofs.Heap.Batch
import TensorEngine.Proofs.Heap.Bias
import TensorEngine.Proofs.Heap.Broadcast
import TensorEngine.Proofs.Heap.Derivative
import TensorEngine.Proofs.Heap.Maximum
import TensorEngine.Proofs.Heap.Softmax
import TensorEngine.Proofs.Pool.Gradient
import TensorEngine.Proofs.Pool.NaN
import TensorEngine.Proofs.Block
import TensorEngine.Proofs.Config
import TensorEngine.Proofs.Conv.Batch
import TensorEngine.Proofs.Conv.Coordinates
import TensorEngine.Proofs.Conv.Indexing
import TensorEngine.Proofs.Conv.Raising
import TensorEngine.Proofs.Descriptor
import TensorEngine.Proofs.Heap.Rectifier

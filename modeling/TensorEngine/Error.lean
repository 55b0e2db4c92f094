import TensorEngine.Conv.Pass
import TensorEngine.Shape
import TensorEngine.Text.Decimal
import TensorEngine.Text.Numeral
import TensorEngine.Text.Quoted
import TensorEngine.Text.Sequence

/-! Why a call is refused. Each cause is a constructor; its wording is `message`,
the class it is reported under is `kind`. -/

set_option autoImplicit false

namespace TensorEngine

inductive AllocationRefusal where
  /-- More bytes than any one block can have. -/
  | capacity
  /-- The allocator has no block of that size. -/
  | exhausted
  deriving DecidableEq

def AllocationRefusal.message : AllocationRefusal → String
  | .capacity =>
    "memory allocation failed because the computed capacity exceeded the collection's maximum"
  | .exhausted => "memory allocation failed because the memory allocator returned an error"

inductive Setting where
  | device
  | workspaceLimit
  | algorithm
  deriving DecidableEq

def Setting.variableName : Setting → String
  | .device => "RUST_DNN_DEVICE"
  | .workspaceLimit => "RUST_DNN_WORKSPACE_LIMIT"
  | .algorithm => "RUST_DNN_CONV_ALGO"

inductive ErrorKind where
  | shapeMismatch
  | incompatibleShapes
  | aliasingViolation
  | notConfigured
  | emptyTensor
  | invalidOperation
  | internalLogicError
  | gradientCheckError
  | outOfMemory
  deriving DecidableEq

inductive Error where
  | shapeMismatch (expected actual : List Nat)
  /-- A dimension of the source is neither that of the destination nor one. -/
  | incompatibleShapes (dest src : Shape)
  /-- Two operands of an operation are one tensor. -/
  | sharedStorage (operation first second : String)
  | convolutionNotConfigured (pass : Conv.Pass)
  | poolingNotConfigured
  | emptyTensor
  | zeroConvolutionStride (stride : Nat × Nat)
  | channelMismatch (filters data : Nat)
  | zeroPoolingParameter (window stride : Nat × Nat)
  | poolingStrideTooLarge (stride : Nat × Nat) (rows cols : Nat)
  | emptyUniformRange (low high : Float32)
  | unboundedUniformRange
  | unboundedDeviation
  | malformedDevice (raw : String) (cause : Text.NumeralError)
  | malformedByteCount (raw : String) (cause : Text.NumeralError)
  | unknownAlgorithm (value : String)
  /-- A rank-4 view needs exactly as many elements as the shape has. -/
  | unfitStorage (length : Nat) (shape : Shape)
  /-- A matrix view needs at least rows * cols elements. -/
  | shortMatrix (length rows cols : Nat)
  | missingWorkspace
  | gradientCount (analytical numerical : Nat)
  | gradientCheck (analytical numerical absError : Float32) (index : Nat)
  | outOfMemory (elements : Nat) (cause : AllocationRefusal)

namespace Error

def kind : Error → ErrorKind
  | shapeMismatch .. => .shapeMismatch
  | incompatibleShapes .. => .incompatibleShapes
  | sharedStorage .. => .aliasingViolation
  | convolutionNotConfigured _ | poolingNotConfigured => .notConfigured
  | emptyTensor => .emptyTensor
  | zeroConvolutionStride _ | channelMismatch .. | zeroPoolingParameter ..
  | poolingStrideTooLarge .. | emptyUniformRange .. | unboundedUniformRange | unboundedDeviation
  | malformedDevice .. | malformedByteCount .. | unknownAlgorithm _ => .invalidOperation
  | unfitStorage .. | shortMatrix .. | missingWorkspace | gradientCount .. => .internalLogicError
  | gradientCheck .. => .gradientCheckError
  | outOfMemory .. => .outOfMemory

def convolutionCall : Conv.Pass → String
  | .forward => "forward"
  | .backwardData => "get_gradient_for_data"
  | .backwardFilter => "get_gradient_for_filters"

def detail : Error → String
  | shapeMismatch expected actual =>
    s!"expected {Text.bracketed expected}, got {Text.bracketed actual}"
  | incompatibleShapes dest src =>
    s!"{Text.bracketed dest.toList} and {Text.bracketed src.toList}"
  | sharedStorage operation first second =>
    s!"{operation}: \x60{first}\x60 and \x60{second}\x60 refer to the same storage"
  | convolutionNotConfigured pass =>
    s!"TensorConv::{convolutionCall pass} called before setup"
  | poolingNotConfigured => "MaxPool::setup has not been called"
  | emptyTensor => ""
  | zeroConvolutionStride stride =>
    s!"convolution strides must be positive, got {Text.pair stride}"
  | channelMismatch filters data =>
    s!"filters have {filters} channels but data has {data}"
  | zeroPoolingParameter window stride =>
    s!"pooling window {Text.pair window} and stride {Text.pair stride} must be positive"
  | poolingStrideTooLarge stride rows cols =>
    s!"pooling stride {Text.pair stride} exceeds source plane {rows}x{cols}"
  | emptyUniformRange low high =>
    s!"Upper bound ({Text.decimal high}) must be greater than lower bound ({Text.decimal low}) " ++
      "for uniform distribution"
  | unboundedUniformRange => "Non-finite range in uniform distribution"
  | unboundedDeviation => "variation parameter is non-finite in (log)normal distribution"
  | malformedDevice raw cause =>
    s!"{Setting.device.variableName}={Text.quote raw} is not a device ordinal: {cause.message}"
  | malformedByteCount raw cause =>
    s!"{Setting.workspaceLimit.variableName}={Text.quote raw} is not a byte count: {cause.message}"
  | unknownAlgorithm value =>
    s!"{Setting.algorithm.variableName}={Text.quote value}: " ++
      "expected \x60fastest\x60 or \x60no_workspace\x60"
  | unfitStorage length shape =>
    s!"cannot view {length} elements as {Text.bracketed shape.toList}: " ++
      "ShapeError/IncompatibleShape: incompatible shapes"
  | shortMatrix length rows cols =>
    s!"cannot view {length} elements as {Text.bracketed [rows, cols]}: " ++
      if rows * cols < Nat.pow 2 63 then "ShapeError/OutOfBounds: out of bounds indexing"
      else "ShapeError/Overflow: arithmetic overflow"
  | missingWorkspace =>
    s!"{Conv.Algorithm.lowered.name} convolution dispatched without a workspace"
  | gradientCount analytical numerical =>
    s!"Gradient size mismatch: analytical size={analytical}, numerical size={numerical}"
  | gradientCheck analytical numerical absError index =>
    s!"analytical={Text.decimal analytical}, numerical={Text.decimal numerical}, " ++
      s!"abs_error={Text.decimal absError}, at_index={index}"
  | outOfMemory elements cause =>
    s!"host workspace of {elements} floats: {cause.message}"

def message (error : Error) : String :=
  match error.kind with
  | .shapeMismatch => s!"Shape mismatch: {error.detail}"
  | .incompatibleShapes => s!"Incompatible shapes for operation add: {error.detail}"
  | .aliasingViolation => s!"Aliasing violation in {error.detail}"
  | .notConfigured => s!"Operator used before setup(): {error.detail}"
  | .emptyTensor => "Operation cannot be performed on empty tensor"
  | .invalidOperation => s!"Invalid operation: {error.detail}"
  | .internalLogicError => s!"Internal logic error: {error.detail}"
  | .gradientCheckError => s!"Gradient check error: {error.detail}"
  | .outOfMemory => s!"Out of memory: {error.detail}"

end Error

end TensorEngine

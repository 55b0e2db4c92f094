import TensorEngine.Pool.Geometry

/-! Max pooling on flat storage, plane by plane. -/

set_option autoImplicit false

namespace TensorEngine.Pool

variable {α β : Type}

def planes (src : Array α) (plane count : Nat) : Option (Array (Array α)) :=
  Buffer.tabulate count fun p => Buffer.slice src (p * plane) ((p + 1) * plane)

/-- Fills whole destination planes with the greatest elements of their windows. -/
def maxForward [Lowest α] [LT α] [DecidableLT α] (geometry : Geometry) (dest src : Array α) :
    Option (Array α) :=
  let cells := geometry.dest.plane
  if cells = 0 then some dest
  else if dest.size % cells ≠ 0 then none
  else do
    let sources ← planes src geometry.src.plane (dest.size / cells)
    Buffer.tabulate dest.size fun flat => do
      let cell := flat % cells
      let source ← sources[flat / cells]?
      let best ← geometry.argmax source (cell / geometry.dest.dims.cols)
        (cell % geometry.dest.dims.cols)
      source[best.1]?

-- Where the gradient of an output goes: (offset in the source, offset of the
-- output). The target has to lie in the part of its plane that is there.
def route [Lowest α] [LT α] [DecidableLT α] [BEq α] (geometry : Geometry) (length : Nat)
    (sources : Array (Array α)) (dest : Array α) (flat : Nat) : Option (Nat × Nat) := do
  let plane := flat / geometry.dest.plane
  let cell := flat % geometry.dest.plane
  let start := plane * geometry.src.plane
  let target ← geometry.gradientTarget (← sources[plane]?) (cell / geometry.dest.dims.cols)
    (cell % geometry.dest.dims.cols) (← dest[flat]?)
  if target < min geometry.src.plane (length - start) then some (start + target, flat) else none

/-- Adds the gradient of each output onto the element its value came from. -/
def maxBackward [Lowest α] [LT α] [DecidableLT α] [BEq α] [Add β] (geometry : Geometry)
    (gradient outputGradient : Array β) (dest src : Array α) : Option (Array β) :=
  let sourceCells := geometry.src.plane
  let cells := geometry.dest.plane
  if sourceCells = 0 ∨ cells = 0 then some gradient
  else do
    let count := (gradient.size + sourceCells - 1) / sourceCells
    let sources ← planes src sourceCells count
    let routes ← (List.range (count * cells)).mapM (route geometry gradient.size sources dest)
    Buffer.scatterAdd gradient outputGradient routes

end TensorEngine.Pool

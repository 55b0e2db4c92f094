import TensorEngine.Conv.Kernel
import TensorEngine.Event

/-! Plans: the algorithm of each pass, and the workspace it owns. -/

set_option autoImplicit false

namespace TensorEngine.Conv

variable {α : Type}

/-- Why a workspace of some number of scalars is refused to a pass, if it is. -/
abbrev Allocator := Pass → Nat → Option AllocationRefusal

def hostAllocator : Allocator := fun _ => Buffer.hostRefusal

structure PassPlan (α : Type) where
  algorithm : Algorithm
  workspaceBytes : Nat
  workspace : Option (Array α)

structure Plan (α : Type) where
  key : Key
  geometry : Geometry
  passes : ByPass (PassPlan α)

namespace PassPlan

-- Running directly is worth a warning unless no workspace is allowed at all.
def warnings (counting : Counting) (pass : Pass) (geometry : Geometry) (cap : Nat) :
    List (Event α) :=
  if Algorithm.select counting pass geometry cap = .direct ∧ 0 < cap then
    [.fallback pass (Algorithm.lowered.workspaceBytes counting pass geometry) cap]
  else []

def ofAlgorithm [Zero α] (allocator : Allocator) (counting : Counting) (algorithm : Algorithm)
    (pass : Pass) (geometry : Geometry) : Except Error (PassPlan α) := do
  let elements := algorithm.workspaceElements counting pass geometry
  let workspace ←
    if 0 < elements then some <$> Buffer.allocate (allocator pass) elements else pure none
  return ⟨algorithm, algorithm.workspaceBytes counting pass geometry, workspace⟩

def derive [Zero α] (allocator : Allocator) (counting : Counting) (preference : Preference)
    (pass : Pass) (geometry : Geometry) : Outcome Unit (Event α) (PassPlan α) :=
  let algorithm := Algorithm.select counting pass geometry preference.cap
  (Outcome.ofExcept () (ofAlgorithm allocator counting algorithm pass geometry)).after
    (warnings counting pass geometry preference.cap)

end PassPlan

def Plan.derive [Zero α] (allocator : Allocator) (counting : Counting) (preference : Preference)
    (key : Key) (geometry : Geometry) : Outcome Unit (Event α) (Plan α) :=
  (PassPlan.derive allocator counting preference .forward geometry).andThen fun forward _ =>
    (PassPlan.derive allocator counting preference .backwardData geometry).andThen
      fun backwardData _ =>
        (PassPlan.derive allocator counting preference .backwardFilter geometry).map
          fun backwardFilter => ⟨key, geometry, ⟨forward, backwardData, backwardFilter⟩⟩

def Plan.event (plan : Plan α) : Event α :=
  .planDerived plan.key plan.geometry.output.dims (plan.passes.map (·.algorithm))
    (plan.passes.map (·.workspaceBytes))

end TensorEngine.Conv

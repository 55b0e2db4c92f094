import TensorEngine.Conv.Plan

/-! The convolution operator. It is configured against concrete layouts and keeps
its plan until it is configured against others, or cleared. -/

set_option autoImplicit false

namespace TensorEngine.Conv

variable {α : Type}

structure Operator (α : Type) where
  config : EngineConfig
  plan : Option (Plan α)
  -- How the sizes of workspaces are counted.
  counting : Counting

namespace Operator

def new (config : EngineConfig) (counting : Counting) : Operator α := ⟨config, none, counting⟩

def isConfigured (operator : Operator α) : Bool := operator.plan.isSome

def outputShape (operator : Operator α) : Option Shape :=
  operator.plan.map (·.geometry.output.dims)

def algorithms (operator : Operator α) : Option (ByPass Algorithm) :=
  operator.plan.map (·.passes.map (·.algorithm))

def workspaceBytes (operator : Operator α) : ByPass Nat :=
  match operator.plan with
  | some plan => plan.passes.map (·.workspaceBytes)
  | none => ⟨0, 0, 0⟩

def cached (operator : Operator α) (key : Key) : Bool :=
  match operator.plan with
  | some plan => plan.key = key
  | none => false

def released (operator : Operator α) : Operator α := { operator with plan := none }

-- Derives a plan unless it is held already. The previous plan is gone by then,
-- so a refusal leaves the operator unconfigured.
def setup [Zero α] (allocator : Allocator) (operator : Operator α) (data filters : Layout)
    (stride : Nat × Nat) : Outcome (Operator α) (Event α) Unit :=
  let key : Key := ⟨data.dims, filters.dims, stride⟩
  if operator.cached key then ⟨.ok (), operator, [.planReused key]⟩
  else
    match Geometry.ofLayouts data filters stride with
    | .error error => .refuse operator.released error
    | .ok geometry =>
      let derived :=
        Plan.derive allocator operator.counting operator.config.preference key geometry
      match derived.answer with
      | .error failure => ⟨.error failure, operator.released, derived.events⟩
      | .ok plan => ⟨.ok (), { operator with plan := some plan }, derived.events ++ [plan.event]⟩

def clear (operator : Operator α) : Outcome (Operator α) (Event α) Unit :=
  ⟨.ok (), operator.released, if operator.isConfigured then [.planReleased] else []⟩

def planFor (operator : Operator α) (pass : Pass) : Except Error (Plan α) :=
  match operator.plan with
  | some plan => .ok plan
  | none => .error (.convolutionNotConfigured pass)

def withWorkspace (operator : Operator α) (pass : Pass)
    (workspace : Option (Array α)) : Operator α :=
  { operator with
    plan := operator.plan.map fun plan =>
      { plan with passes := plan.passes.set pass { plan.passes.get pass with workspace } } }

end Operator

end TensorEngine.Conv

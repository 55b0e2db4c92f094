/-! The three computations of a convolution, and the two ways to run each. -/

set_option autoImplicit false

namespace TensorEngine.Conv

inductive Pass where
  | forward
  | backwardData
  | backwardFilter
  deriving DecidableEq

namespace Pass

def all : List Pass := [.forward, .backwardData, .backwardFilter]

def name : Pass → String
  | .forward => "forward"
  | .backwardData => "backward-data"
  | .backwardFilter => "backward-filter"

end Pass

inductive Algorithm where
  /-- Each element of the result is a sum of its own; no workspace. -/
  | direct
  /-- One sample at a time is lowered into a column matrix, for a matrix product. -/
  | lowered
  deriving DecidableEq

namespace Algorithm

-- Candidates, fastest first.
def bySpeed : List Algorithm := [.lowered, .direct]

def name : Algorithm → String
  | .direct => "Direct"
  | .lowered => "Im2ColGemm"

end Algorithm

structure ByPass (β : Type) where
  forward : β
  backwardData : β
  backwardFilter : β
  deriving DecidableEq

namespace ByPass

variable {β γ : Type}

def get (values : ByPass β) : Pass → β
  | .forward => values.forward
  | .backwardData => values.backwardData
  | .backwardFilter => values.backwardFilter

def set (values : ByPass β) (pass : Pass) (value : β) : ByPass β :=
  match pass with
  | .forward => { values with forward := value }
  | .backwardData => { values with backwardData := value }
  | .backwardFilter => { values with backwardFilter := value }

def map (f : β → γ) (values : ByPass β) : ByPass γ :=
  ⟨f values.forward, f values.backwardData, f values.backwardFilter⟩

def toList (values : ByPass β) : List β :=
  [values.forward, values.backwardData, values.backwardFilter]

@[simp] theorem get_set (values : ByPass β) (pass other : Pass) (value : β) :
    (values.set pass value).get other = if other = pass then value else values.get other := by
  cases pass <;> cases other <;> rfl

@[simp] theorem get_map (f : β → γ) (values : ByPass β) (pass : Pass) :
    (values.map f).get pass = f (values.get pass) := by
  cases pass <;> rfl

end ByPass

end TensorEngine.Conv

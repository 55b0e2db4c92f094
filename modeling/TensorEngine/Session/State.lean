import TensorEngine.Conv.Operator
import TensorEngine.Heap.Basic
import TensorEngine.Pool.Operator

/-! The state of a session: named tensors, convolutions and pools. Two names may
stand for one tensor. -/

set_option autoImplicit false

namespace TensorEngine

/-- Things under names; the last one given to a name counts. -/
abbrev Names (β : Type) := List (String × β)

namespace Names

variable {β : Type}

def bind (names : Names β) (name : String) (value : β) : Names β :=
  (name, value) :: List.filter (fun entry => entry.1 ≠ name) names

def find (names : Names β) (name : String) : Option β := List.lookup name names

theorem find_bind_self (names : Names β) (name : String) (value : β) :
    (names.bind name value).find name = some value := by
  simp [bind, find]

end Names

structure Session where
  heap : Heap Float32
  tensors : Names Handle
  convolutions : Names (Conv.Operator Float32)
  pools : Names Pool.Operator

namespace Session

def empty : Session := ⟨Heap.empty, [], [], []⟩

def withTensor (session : Session) (name : String) (handle : Handle) : Session :=
  { session with tensors := session.tensors.bind name handle }

def withConvolution (session : Session) (name : String)
    (operator : Conv.Operator Float32) : Session :=
  { session with convolutions := session.convolutions.bind name operator }

def withPool (session : Session) (name : String) (operator : Pool.Operator) : Session :=
  { session with pools := session.pools.bind name operator }

/-- What is shown of a tensor; long contents are left out. -/
structure TensorView where
  shape : Shape
  elements : Option (Array Float32)

def shownLimit : Nat := 4096

def viewTensor (session : Session) (name : String) : Option TensorView := do
  let tensor := session.heap.get (← session.tensors.find name)
  return { shape := tensor.shape
           elements := if tensor.data.size ≤ shownLimit then some tensor.data else none }

end Session

end TensorEngine

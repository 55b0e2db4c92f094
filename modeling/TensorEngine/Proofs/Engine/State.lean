import Mathlib.Logic.Function.Basic
import TensorEngine.Heap.Activation
import TensorEngine.Heap.Convolution
import TensorEngine.Heap.Elementwise
import TensorEngine.Heap.Pooling

/-! The engine as a state machine. Its state is all tensors and all operators; a step is
one call, whether that call answers or fails. Operators are numbered, and each of them is
new until it is first used. -/

set_option autoImplicit false

namespace TensorEngine

open TensorEngine.Conv TensorEngine.Pool

variable {α β : Type}

structure Engine (α : Type) where
  heap : Heap α
  convolutions : Nat → Conv.Operator α
  pools : Nat → Pool.Operator

/-- A call, with handles for its tensors and numbers for its operators. A setup of a
convolution brings the allocator that it meets. -/
inductive Request (α : Type) where
  | create (data : Array α) (shape : Shape)
  | createZeros (shape : Shape)
  | duplicate (source : Handle)
  | setSize (dest : Handle) (shape : Shape)
  | setHost (dest : Handle) (values : Array α)
  | fill (dest : Handle) (value : α)
  | scale (dest : Handle) (factor : α)
  | add (beta : α) (dest : Handle) (alpha : α) (src : Handle)
  | biasGradient (bias gradient : Handle)
  | activate (activation : Activation) (dest src : Handle)
  | activationGradient (activation : Activation) (gradient outputs outputGradient : Handle)
  | convSetup (operator : Nat) (allocator : Allocator) (data filters : Handle) (stride : Nat × Nat)
  | convForward (operator : Nat) (output data filters : Handle)
  | convDataGradient (operator : Nat) (outputGradient filters dataGradient : Handle)
  | convFilterGradient (operator : Nat) (outputGradient data filterGradient : Handle)
  | convClear (operator : Nat)
  | poolSetup (operator : Nat) (window : Window)
  | pool (operator : Nat) (dest src : Handle)
  | poolGradient (operator : Nat) (outputGradient dest src gradient : Handle)
  | poolClear (operator : Nat)

def Request.handles : Request α → List Handle
  | .create .. | .createZeros _ | .convClear _ | .poolSetup .. | .poolClear _ => []
  | .duplicate handle | .setSize handle _ | .setHost handle _ | .fill handle _ | .scale handle _ =>
    [handle]
  | .add _ dest _ src | .activate _ dest src | .pool _ dest src => [dest, src]
  | .biasGradient bias gradient => [bias, gradient]
  | .activationGradient _ gradient outputs outputGradient => [gradient, outputs, outputGradient]
  | .convSetup _ _ data filters _ => [data, filters]
  | .convForward _ output data filters => [output, data, filters]
  | .convDataGradient _ outputGradient filters dataGradient =>
    [outputGradient, filters, dataGradient]
  | .convFilterGradient _ outputGradient data filterGradient =>
    [outputGradient, data, filterGradient]
  | .poolGradient _ outputGradient dest src gradient => [outputGradient, dest, src, gradient]

namespace Engine

def start (configs : Nat → EngineConfig) (counting : Counting) : Engine α :=
  ⟨Heap.empty, fun operator => .new (configs operator) counting, fun _ => .new⟩

/-- The handles of a request stand for tensors; any of them may be one and the same. -/
def Admits (engine : Engine α) (request : Request α) : Prop :=
  ∀ handle ∈ request.handles, engine.heap.Valid handle

instance (engine : Engine α) (request : Request α) : Decidable (engine.Admits request) :=
  inferInstanceAs (Decidable (∀ handle ∈ request.handles, engine.heap.Valid handle))

def onHeap (engine : Engine α) (call : Outcome (Heap α) (Event α) β) :
    Outcome (Engine α) (Event α) Unit :=
  (call.mapState fun heap => { engine with heap }).map fun _ => ()

def onConvolution (engine : Engine α) (operator : Nat)
    (call : Outcome (Conv.Operator α × Heap α) (Event α) Unit) :
    Outcome (Engine α) (Event α) Unit :=
  call.mapState fun state =>
    { engine with heap := state.2, convolutions :=
      Function.update engine.convolutions operator state.1 }

def onPool (engine : Engine α) (operator : Nat) (call : Outcome Pool.Operator (Event α) Unit) :
    Outcome (Engine α) (Event α) Unit :=
  call.mapState fun state => { engine with pools := Function.update engine.pools operator state }

variable [Zero α] [One α] [Add α] [Sub α] [Neg α] [Mul α] [Div α] [LT α] [LE α] [DecidableLT α]
  [DecidableLE α] [BEq α] [Elementary α] [Lowest α] [MatrixProduct α]

def perform (engine : Engine α) (request : Request α) : Outcome (Engine α) (Event α) Unit :=
  let heap := engine.heap
  match request with
  | .create data shape => engine.onHeap (heap.create data shape)
  | .createZeros shape => engine.onHeap (heap.createZeros shape)
  | .duplicate source => engine.onHeap (heap.duplicate source)
  | .setSize dest shape => engine.onHeap (heap.setSize dest shape)
  | .setHost dest values => engine.onHeap (heap.setHost dest values)
  | .fill dest value => engine.onHeap (heap.fill dest value)
  | .scale dest factor => engine.onHeap (heap.scale dest factor)
  | .add beta dest alpha src => engine.onHeap (heap.add beta dest alpha src)
  | .biasGradient bias gradient => engine.onHeap (heap.addBiasGradient bias gradient)
  | .activate activation dest src => engine.onHeap (heap.activate activation dest src)
  | .activationGradient activation gradient outputs outputGradient =>
    engine.onHeap (heap.activationGradient activation gradient outputs outputGradient)
  | .convSetup operator allocator data filters stride =>
    engine.onConvolution operator
      ((heap.setupConvolution allocator (engine.convolutions operator) data filters stride).mapState
        (·, heap))
  | .convForward operator output data filters =>
    engine.onConvolution operator
      (heap.convolveForward (engine.convolutions operator) output data filters)
  | .convDataGradient operator outputGradient filters dataGradient =>
    engine.onConvolution operator
      (heap.addDataGradient (engine.convolutions operator) outputGradient filters dataGradient)
  | .convFilterGradient operator outputGradient data filterGradient =>
    engine.onConvolution operator
      (heap.assignFilterGradient (engine.convolutions operator) outputGradient data filterGradient)
  | .convClear operator =>
    engine.onConvolution operator ((engine.convolutions operator).clear.mapState (·, heap))
  | .poolSetup operator window => engine.onPool operator ((engine.pools operator).setup window)
  | .pool operator dest src => engine.onHeap (heap.pool (engine.pools operator) dest src)
  | .poolGradient operator outputGradient dest src gradient =>
    engine.onHeap (heap.addPoolGradient (engine.pools operator) outputGradient dest src gradient)
  | .poolClear operator => engine.onPool operator (.done (engine.pools operator).clear ())

/-- The states that calls lead to from an engine without tensors. -/
inductive Reachable (configs : Nat → EngineConfig) (counting : Counting) : Engine α → Prop where
  | start : Reachable configs counting (start configs counting)
  | step {engine : Engine α} {request : Request α} (reachable : Reachable configs counting engine)
      (admitted : engine.Admits request) : Reachable configs counting (engine.perform request).state

end Engine

end TensorEngine

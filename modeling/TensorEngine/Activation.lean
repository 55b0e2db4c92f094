import TensorEngine.Buffer
import TensorEngine.Summation

/-! Activations and their gradients on flat storage. A forward function turns
inputs into outputs in place; a gradient function turns the gradient of the
outputs into the gradient of the inputs in place, from the outputs. -/

set_option autoImplicit false

namespace TensorEngine

/-- The two transcendental functions that activations are made of. -/
class Elementary (α : Type) where
  exp : α → α
  tanh : α → α

instance : Elementary Float32 := ⟨Float32.exp, Float32.tanh⟩

inductive Activation where
  | softmax
  | sigmoid
  | relu
  | tanh
  deriving DecidableEq

namespace Activation

def name : Activation → String
  | softmax => "softmax"
  | sigmoid => "sigmoid"
  | relu => "relu"
  | tanh => "tanh"

variable {α : Type}

-- The greatest number of a lane; values that are not numbers are passed over.
def peak [LT α] [LE α] [DecidableLT α] [DecidableLE α] (lane : List α) : Option α :=
  lane.foldl (fun best value =>
    if value ≤ value then
      match best with
      | some greatest => if greatest < value then some value else best
      | none => some value
    else best) none

-- Exponentials of a lane, shifted so that the greatest is that of zero. A lane
-- without numbers stays as it is.
def laneWeights [Sub α] [LT α] [LE α] [DecidableLT α] [DecidableLE α] [Elementary α]
    (lane : List α) :
    List α :=
  let shift := match peak lane with
    | some greatest => fun value => value - greatest
    | none => id
  lane.map fun value => Elementary.exp (shift value)

-- Shares of a lane; the elements are added side by side when they are adjacent.
def laneSoftmax [Zero α] [Add α] [Sub α] [Div α] [LT α] [LE α] [DecidableLT α] [DecidableLE α]
    [Elementary α] (adjacent : Bool) (lane : List α) : List α :=
  let weights := laneWeights lane
  let total := sumRun adjacent weights.length fun i => weights.getD i 0
  weights.map (· / total)

def laneSoftmaxGradient [Zero α] [Add α] [Sub α] [Mul α] (adjacent : Bool)
    (outputs gradients : List α) :
    List α :=
  let total := sumRun adjacent outputs.length fun i => gradients.getD i 0 * outputs.getD i 0
  List.zipWith (fun output gradient => output * (gradient - total)) outputs gradients

/-- The elements of all channels at one location of one sample. -/
def lane [Zero α] (values : Array α) (layout : Layout) (sample row col : Nat) : List α :=
  (List.range layout.dims.channels).map fun channel =>
    values.getD (layout.offset ⟨sample, channel, row, col⟩) 0

-- Channels lie side by side when a plane has one element.
def adjacentLanes (layout : Layout) : Bool := layout.plane = 1

def ofLanes [Zero α] (layout : Layout) (newLane : Nat → Nat → Nat → List α) : Array α :=
  let lanes := Array.ofFn fun location : Fin (layout.dims.samples * layout.plane) =>
    let sample := location.val / layout.plane
    let cell := location.val % layout.plane
    (newLane sample (cell / layout.dims.cols) (cell % layout.dims.cols)).toArray
  Array.ofFn fun flat : Fin layout.count =>
    let index := layout.planePosition flat
    let location := index.sample * layout.plane + index.row * layout.dims.cols + index.col
    (lanes.getD location #[]).getD index.channel 0

def logistic [One α] [Add α] [Neg α] [Div α] [Elementary α] (value : α) : α :=
  1 / (1 + Elementary.exp (-value))

def rectify [Zero α] [LT α] [DecidableLT α] (value : α) : α :=
  if 0 < value then value else 0

def logisticGradient [One α] [Sub α] [Mul α] (output gradient : α) : α :=
  gradient * (output * (1 - output))

def rectifyGradient [Zero α] [LE α] [DecidableLE α] (output gradient : α) : α :=
  if output ≤ 0 then 0 else gradient

def tanhGradient [One α] [Sub α] [Mul α] (output gradient : α) : α :=
  gradient * (1 - output * output)

def zipGradient (rule : α → α → α) (gradients outputs : Array α) : Except Error (Array α) :=
  if gradients.size = outputs.size then
    .ok (Array.zipWith (fun gradient output => rule output gradient) gradients outputs)
  else .error (.shapeMismatch [outputs.size] [gradients.size])

variable [Zero α] [One α] [Add α] [Sub α] [Neg α] [Mul α] [Div α] [LT α] [LE α] [DecidableLT α]
  [DecidableLE α] [Elementary α]

-- Outputs for inputs seen under a layout; only softmax looks at the layout.
def apply (activation : Activation) (inputs : Array α) (layout : Layout) : Except Error (Array α) :=
  match activation with
  | softmax => do
    Buffer.fitsLayout inputs layout
    return ofLanes layout fun sample row col =>
      laneSoftmax (adjacentLanes layout) (lane inputs layout sample row col)
  | sigmoid => .ok (inputs.map logistic)
  | relu => .ok (inputs.map rectify)
  | tanh => .ok (inputs.map Elementary.tanh)

def gradient (activation : Activation) (gradients outputs : Array α) (layout : Layout) :
    Except Error (Array α) :=
  match activation with
  | softmax => do
    Buffer.fitsLayout gradients layout
    Buffer.fitsLayout outputs layout
    return ofLanes layout fun sample row col =>
      laneSoftmaxGradient (adjacentLanes layout) (lane outputs layout sample row col)
        (lane gradients layout sample row col)
  | sigmoid => zipGradient logisticGradient gradients outputs
  | relu => zipGradient rectifyGradient gradients outputs
  | tanh => zipGradient tanhGradient gradients outputs

end Activation

end TensorEngine

import TensorEngine.Activation
import TensorEngine.Config
import TensorEngine.Pool.Window
import TensorEngine.Sampling
import TensorEngine.Session.Values

/-! The steps of a session, and what they reply. -/

set_option autoImplicit false

namespace TensorEngine.Session

/-- A scalar function of one tensor, in terms of other named tensors. -/
inductive ObjectiveSpec where
  | dotSelf
  | dot (weights : String)
  | relu (weights : String)
  | pool (weights : String) (window : Pool.Window)
  /-- The tensor is the data of a convolution. -/
  | convData (filters weights : String) (stride : Nat × Nat)
  /-- The tensor is the filters of a convolution. -/
  | convFilters (data weights : String) (stride : Nat × Nat)

inductive ConfigSource where
  | standard
  | preference (preference : Preference)
  | settings (found : List (String × String))

inductive Reference where
  | given (values : Values)
  | tensor (name : String)

inductive Step where
  | new (name : String) (shape : Shape) (values : Values)
  | zeros (name : String) (shape : Shape)
  /-- A second name for the same tensor. -/
  | alias (name source : String)
  | duplicate (name source : String)
  | sample (shape : Shape) (distribution : Distribution)
  | setSize (name : String) (shape : Shape)
  | setHost (name : String) (values : Values)
  | fill (name : String) (value : Float32)
  | scale (name : String) (factor : Float32)
  | info (name : String)
  | describe (name : String)
  | compare (first second : String)
  | add (beta : Float32) (dest : String) (alpha : Float32) (src : String)
  | biasGradient (bias gradient : String)
  | activate (activation : Activation) (dest src : String)
  | activationGradient (activation : Activation) (gradient outputs outputGradient : String)
  | convNew (name : String) (source : ConfigSource)
  | convSetup (name data filters : String) (stride : Nat × Nat)
  | convForward (name output data filters : String)
  | convDataGradient (name outputGradient filters dataGradient : String)
  | convFilterGradient (name outputGradient data filterGradient : String)
  | convClear (name : String)
  | poolNew (name : String)
  | poolSetup (name : String) (window : Pool.Window)
  | poolForward (name dest src : String)
  | poolGradient (name outputGradient dest src gradient : String)
  | poolClear (name : String)
  | dot (first second : String)
  | numericalGradient (objective : ObjectiveSpec) (name : String) (epsilon : Float32)
  | checkGradient (objective : ObjectiveSpec) (name : String) (analytical : Reference)
      (epsilon tolerance : Float32)
  | assertClose (name : String) (expected : Values) (tolerance : Float32)
  | assertTensorsClose (first second : String) (tolerance : Float32)

structure TensorInfo where
  layout : Layout
  count : Nat
  stored : Nat

/-- A sampled tensor, as far as it does not depend on the draws. -/
structure SampleInfo where
  shape : Shape
  count : Nat
  contained : Bool
  values : Option (Array Float32)

inductive Reply where
  | done
  | sampled (sample : SampleInfo)
  | described (info : TensorInfo)
  | text (text : String)
  | compared (sameObject sameDims : Bool)
  | configuration (config : EngineConfig)
  | scalar (value : Float32)
  | values (values : Array Float32)

end TensorEngine.Session

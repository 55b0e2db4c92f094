import TensorEngine.Heap.Elementwise
import TensorEngine.Session.Objective

/-! Running the steps of a session. A step that names something absent has no
outcome; a step that fails leaves the names as they were. -/

set_option autoImplicit false

namespace TensorEngine.Session

abbrev StepOutcome := Outcome Session (Event Float32) Reply

def onHeap {β : Type} (session : Session) (reply : β → Reply)
    (call : Outcome (Heap Float32) (Event Float32) β) :
    StepOutcome :=
  (call.mapState fun heap => { session with heap }).map reply

def naming (session : Session) (name : String)
    (call : Outcome (Heap Float32) (Event Float32) Handle) :
    StepOutcome :=
  (call.mapState fun heap => { session with heap }).andThen fun handle session =>
    .done (session.withTensor name handle) .done

def onConvolution (session : Session) (name : String)
    (call : Outcome (Conv.Operator Float32 × Heap Float32) (Event Float32) Unit) : StepOutcome :=
  (call.mapState fun state =>
    { session with heap := state.2 }.withConvolution name state.1).map fun _ => .done

def onPool (session : Session) (name : String) (call : Outcome Pool.Operator (Event Float32) Unit) :
    StepOutcome :=
  (call.mapState (session.withPool name)).map fun _ => .done

def observe (session : Session) (reply : Reply) : StepOutcome := .done session reply

def verdict (session : Session) : Except Failure Unit → StepOutcome
  | .ok () => .done session .done
  | .error failure => .fail session failure

def ConfigSource.load (source : ConfigSource) : Outcome Unit (Event Float32) EngineConfig :=
  match source with
  | .standard => .done () default
  | .preference chosen => .done () ((default : EngineConfig).withPreference chosen)
  | .settings found =>
    match EngineConfig.ofLookup fun name => found.lookup name with
    | .error error => .refuse () error
    | .ok config => (Outcome.done () config).after [.configured config]

def newConvolution (session : Session) (name : String) (source : ConfigSource) : StepOutcome :=
  (source.load.mapState fun _ => session).andThen fun config session =>
    .done (session.withConvolution name (.new config .words)) (.configuration config)

-- Draws are not stored; only what holds of all of them is reported.
def sample (session : Session) (shape : Shape) (distribution : Distribution) : StepOutcome :=
  match distribution.validate with
  | .error error => .refuse session error
  | .ok () =>
    let dims := shape.collapse
    observe session (.sampled
      { shape := dims
        count := dims.count
        contained := distribution.contained dims.count
        values := distribution.settled?.map (Array.replicate dims.count) })

def tensorInfo (tensor : Tensor Float32) : TensorInfo :=
  ⟨tensor.layout, tensor.layout.count, tensor.data.size⟩

def tensorText (tensor : Tensor Float32) : String :=
  s!"TensorData \x7b id: #, shape: {Text.parenthesised tensor.shape.toList}, device: Cpu \x7d"

def analyticalValues (session : Session) (reference : Reference) (count : Nat) :
    Option (Array Float32) :=
  match reference with
  | .given values => some (values.expand count)
  | .tensor name => (session.tensors.find name).map session.heap.data

def withObjective {β : Type} (session : Session) (spec : ObjectiveSpec) (input : Handle)
    (reply : β → Reply)
    (call : Gradient.Objective Float32 → Outcome (Heap Float32) (Event Float32) β) :
    Option StepOutcome := do
  let resolved ← spec.resolve session input
  return (resolved.mapState fun _ => session).andThen fun objective session =>
    session.onHeap reply (call objective)

def run (session : Session) (step : Step) : Option StepOutcome := do
  let heap := session.heap
  let tensor := session.tensors.find
  let convolution := session.convolutions.find
  let pool := session.pools.find
  let size := fun handle => (heap.layout handle).count
  match step with
  | .new name shape values =>
    return session.naming name (heap.create (values.expand shape.count) shape)
  | .zeros name shape => return session.naming name (heap.createZeros shape)
  | .alias name source => return .done (session.withTensor name (← tensor source)) .done
  | .duplicate name source => return session.naming name (heap.duplicate (← tensor source))
  | .sample shape distribution => return session.sample shape distribution
  | .setSize name shape =>
    return session.onHeap (fun _ => .done) (heap.setSize (← tensor name) shape)
  | .setHost name values =>
    let handle ← tensor name
    return session.onHeap (fun _ => .done) (heap.setHost handle (values.expand (size handle)))
  | .fill name value => return session.onHeap (fun _ => .done) (heap.fill (← tensor name) value)
  | .scale name factor => return session.onHeap (fun _ => .done) (heap.scale (← tensor name) factor)
  | .info name => return session.observe (.described (tensorInfo (heap.get (← tensor name))))
  | .describe name => return session.observe (.text (tensorText (heap.get (← tensor name))))
  | .compare first second =>
    let first ← tensor first
    let second ← tensor second
    return session.observe (.compared (first = second) (heap.shape first = heap.shape second))
  | .add beta dest alpha src =>
    return session.onHeap (fun _ => .done) (heap.add beta (← tensor dest) alpha (← tensor src))
  | .biasGradient bias gradient =>
    return session.onHeap (fun _ => .done)
      (heap.addBiasGradient (← tensor bias) (← tensor gradient))
  | .activate activation dest src =>
    return session.onHeap (fun _ => .done) (heap.activate activation (← tensor dest) (← tensor src))
  | .activationGradient activation gradient outputs outputGradient =>
    return session.onHeap (fun _ => .done) (heap.activationGradient activation (← tensor gradient)
      (← tensor outputs) (← tensor outputGradient))
  | .convNew name source => return session.newConvolution name source
  | .convSetup name data filters stride =>
    let call := heap.setupConvolution Conv.hostAllocator (← convolution name) (← tensor data)
      (← tensor filters) stride
    return session.onConvolution name (call.mapState (·, heap))
  | .convForward name output data filters =>
    return session.onConvolution name (heap.convolveForward (← convolution name) (← tensor output)
      (← tensor data) (← tensor filters))
  | .convDataGradient name outputGradient filters dataGradient =>
    return session.onConvolution name (heap.addDataGradient (← convolution name)
      (← tensor outputGradient) (← tensor filters) (← tensor dataGradient))
  | .convFilterGradient name outputGradient data filterGradient =>
    return session.onConvolution name (heap.assignFilterGradient (← convolution name)
      (← tensor outputGradient) (← tensor data) (← tensor filterGradient))
  | .convClear name =>
    return session.onConvolution name ((← convolution name).clear.mapState (·, heap))
  | .poolNew name => return .done (session.withPool name .new) .done
  | .poolSetup name window => return session.onPool name ((← pool name).setup window)
  | .poolForward name dest src =>
    return session.onHeap (fun _ => .done) (heap.pool (← pool name) (← tensor dest) (← tensor src))
  | .poolGradient name outputGradient dest src gradient =>
    return session.onHeap (fun _ => .done) (heap.addPoolGradient (← pool name)
      (← tensor outputGradient) (← tensor dest) (← tensor src) (← tensor gradient))
  | .poolClear name => return .done (session.withPool name (← pool name).clear) .done
  | .dot first second =>
    return session.onHeap .scalar (dotOf (← tensor first) (← tensor second) heap)
  | .numericalGradient objective name epsilon =>
    let input ← tensor name
    session.withObjective objective input .values fun objective =>
      Gradient.numerical objective input epsilon heap
  | .checkGradient objective name analytical epsilon tolerance =>
    let input ← tensor name
    let analytical ← session.analyticalValues analytical (size input)
    session.withObjective objective input (fun _ => .done) fun objective =>
      Gradient.check objective input analytical epsilon tolerance heap
  | .assertClose name expected tolerance =>
    let handle ← tensor name
    return session.verdict
      (Gradient.assertClose (heap.data handle) (expected.expand (size handle)) tolerance)
  | .assertTensorsClose first second tolerance =>
    return session.verdict
      (Gradient.assertTensorsClose (heap.get (← tensor first))
        (heap.get (← tensor second)) tolerance)

end TensorEngine.Session

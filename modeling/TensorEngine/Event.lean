import TensorEngine.Activation
import TensorEngine.Config
import TensorEngine.Conv.Key
import TensorEngine.Pool.Window

/-! What the engine records while it works. An event is recorded once the checks
in front of it have passed, so a refused call records only what came before. -/

set_option autoImplicit false

namespace TensorEngine

inductive Level where
  | trace
  | debug
  | warn
  deriving DecidableEq

def Level.name : Level → String
  | .trace => "TRACE"
  | .debug => "DEBUG"
  | .warn => "WARN"

inductive Event (α : Type) where
  /-- A tensor got fresh storage for a new element count. -/
  | reallocated (count : Nat)
  | configured (config : EngineConfig)
  | planReused (key : Conv.Key)
  /-- A pass runs directly although some workspace is allowed. -/
  | fallback (pass : Conv.Pass) (needed cap : Nat)
  | planDerived (key : Conv.Key) (output : Shape) (algorithms : Conv.ByPass Conv.Algorithm)
      (bytes : Conv.ByPass Nat)
  | planReleased
  | convolved (pass : Conv.Pass) (algorithm : Conv.Algorithm)
  | poolConfigured (window : Pool.Window)
  | poolUnchanged (window : Pool.Window)
  | pooled (src dest : Shape)
  | unpooled (dest src : Shape)
  | activated (activation : Activation) (dims : Shape)
  | activationGradient (activation : Activation) (dims : Shape)
  | added (beta : α) (dest : Shape) (alpha : α) (src : Shape)
  | biasGradient (dims : Shape)

namespace Event

def level {α : Type} : Event α → Level
  | fallback .. => .warn
  | configured _ | planReused _ | planDerived .. | planReleased | poolConfigured _
  | poolUnchanged _ => .debug
  | _ => .trace

def slashed (items : List String) : String := String.intercalate "/" items

def text : Event Float32 → String
  | reallocated count => s!"tensor # reallocated for {count} elements"
  | configured config => s!"engine configuration: {config.render}"
  | planReused key => s!"conv setup for {key.render} reuses the cached plan"
  | fallback pass needed cap =>
    s!"{pass.name} convolution falls back to the direct algorithm: " ++
      s!"GEMM workspace of {needed} bytes exceeds the {cap} byte limit"
  | planDerived key output algorithms bytes =>
    s!"conv configured: data {Text.bracketed key.data.toList} " ++
      s!"filters {Text.bracketed key.filters.toList} stride {Text.pair key.stride} " ++
      s!"-> output {Text.bracketed output.toList}; " ++
      s!"algorithms {slashed (algorithms.toList.map Conv.Algorithm.name)}, " ++
      s!"workspace bytes {slashed (bytes.toList.map toString)}"
  | planReleased => "conv plan released"
  | convolved pass algorithm => s!"conv {pass.name} with {algorithm.name}"
  | poolConfigured window => s!"max pool configured: {window.render}"
  | poolUnchanged window => s!"max pool setup unchanged: {window.render}"
  | pooled src dest =>
    s!"max_pool forward {Text.bracketed src.toList} -> {Text.bracketed dest.toList}"
  | unpooled dest src =>
    s!"max_pool backward {Text.bracketed dest.toList} -> {Text.bracketed src.toList}"
  | activated activation dims => s!"{activation.name} forward on {Text.bracketed dims.toList}"
  | activationGradient activation dims =>
    s!"{activation.name} backward on {Text.bracketed dims.toList}"
  | added beta dest alpha src =>
    s!"add beta={Text.decimal beta} dest{Text.bracketed dest.toList} " ++
      s!"alpha={Text.decimal alpha} src{Text.bracketed src.toList}"
  | biasGradient dims => s!"add_conv_bias_gradient over {Text.bracketed dims.toList}"

def render (event : Event Float32) : String := s!"{event.level.name} {event.text}"

end Event

end TensorEngine

import TensorEngine.Error
import TensorEngine.Text.Blank

/-! Engine configuration: the device, and how much workspace a convolution may
hold. Values come from the defaults, overridden by three variables that are
checked in the order device, workspace limit, algorithm. -/

set_option autoImplicit false

namespace TensorEngine

inductive Preference where
  /-- The fastest algorithm whose workspace fits under a default cap. -/
  | fastest (cap : Nat)
  | noWorkspace
  /-- The fastest algorithm whose workspace fits under a cap that was asked for. -/
  | limit (bytes : Nat)
  deriving DecidableEq

namespace Preference

def defaultCap : Nat := 256 * 1024 * 1024

instance : Inhabited Preference := ⟨fastest defaultCap⟩

def cap : Preference → Nat
  | fastest cap => cap
  | noWorkspace => 0
  | limit bytes => bytes

def name : Preference → String
  | fastest _ => "PreferFastest"
  | noWorkspace => "NoWorkspace"
  | limit _ => "WorkspaceLimit"

def render (preference : Preference) : String :=
  match preference with
  | fastest cap => preference.name ++ s!" \x7b limit_bytes: {cap} \x7d"
  | noWorkspace => preference.name
  | limit bytes => preference.name ++ s!"({bytes})"

end Preference

structure EngineConfig where
  device : Nat
  preference : Preference
  deriving DecidableEq

namespace EngineConfig

instance : Inhabited EngineConfig := ⟨⟨0, default⟩⟩

def deviceBound : Nat := UInt32.size

def byteCountBound : Nat := UInt64.size

-- A variable that is absent leaves the default.
def readDevice : Option String → Except Error Nat
  | none => .ok 0
  | some raw =>
    match Text.readNumeral deviceBound (Text.trim raw) with
    | .ok device => .ok device
    | .error cause => .error (.malformedDevice raw cause)

def readLimit : Option String → Except Error (Option Nat)
  | none => .ok none
  | some raw =>
    match Text.readNumeral byteCountBound (Text.trim raw) with
    | .ok bytes => .ok (some bytes)
    | .error cause => .error (.malformedByteCount raw cause)

-- The limit is heeded by every algorithm choice but the one without workspace.
def readPreference (limit : Option Nat) (algorithm : Option String) : Except Error Preference :=
  let fastest := match limit with
    | some bytes => Preference.limit bytes
    | none => default
  match algorithm.map Text.trim with
  | none => .ok fastest
  | some name =>
    if name = "fastest" then .ok fastest
    else if name = "no_workspace" then .ok .noWorkspace
    else .error (.unknownAlgorithm name)

def ofLookup (lookup : String → Option String) : Except Error EngineConfig := do
  let device ← readDevice (lookup Setting.device.variableName)
  let limit ← readLimit (lookup Setting.workspaceLimit.variableName)
  let preference ← readPreference limit (lookup Setting.algorithm.variableName)
  return { device, preference }

def withPreference (config : EngineConfig) (preference : Preference) : EngineConfig :=
  { config with preference }

def render (config : EngineConfig) : String :=
  s!"EngineConfig \x7b device_id: {config.device}, conv_preference: {config.preference.render} \x7d"

end EngineConfig

end TensorEngine

import TensorEngine.Text.Decimal

/-! Rounding of reported numbers: to the points of a binary grid, or to a number of
mantissa bits. Numbers without a finite value stay as they are. -/

set_option autoImplicit false

namespace TensorEngine

/-- Rounds numerator / 2 ^ places to the nearest integer, halves to the even one. -/
def roundHalfEven (numerator places : Nat) : Nat :=
  let below := numerator / Nat.pow 2 places
  let rest := 2 * (numerator % Nat.pow 2 places)
  if rest < Nat.pow 2 places ∨ (rest = Nat.pow 2 places ∧ below % 2 = 0) then below else below + 1

-- Nearest multiple of 2 ^ -places; zero loses its sign.
def roundToGrid (places : Nat) (number : Float32) : Float32 :=
  let bits := number.toBits.toNat
  let magnitude := Text.Magnitude.ofBits bits
  let exponent := magnitude.exponent + Int.ofNat places
  if !number.isFinite then number
  else if 0 ≤ exponent then if magnitude.mantissa = 0 then 0 else number
  else
    let multiple := roundHalfEven magnitude.mantissa (-exponent).toNat
    let rounded := (Float32.ofNat multiple).scaleB (-Int.ofNat places)
    if multiple = 0 then 0 else if Nat.pow 2 31 ≤ bits then -rounded else rounded

/-- Nearest number whose mantissa ends in zeros after `kept` bits. -/
def roundMantissa (kept : Nat) (number : Float32) : Float32 :=
  let dropped := 23 - kept
  if !number.isFinite || dropped = 0 then number
  else
    let bits := number.toBits.toNat
    let rounded := roundHalfEven bits dropped * Nat.pow 2 dropped
    Float32.ofBits (UInt32.ofNat rounded)

-- How far reported numbers are rounded; the grid comes first.
structure Precision where
  grid : Option Nat
  mantissaBits : Option Nat

def Precision.round (precision : Precision) (number : Float32) : Float32 :=
  let onGrid := match precision.grid with
    | some places => roundToGrid places number
    | none => number
  match precision.mantissaBits with
  | some kept => roundMantissa kept onGrid
  | none => onGrid

end TensorEngine

/-! Decimal text of binary32 numbers: the fewest digits that read back as the
same number, and of those the nearest to it, written without an exponent. -/

set_option autoImplicit false

namespace TensorEngine.Text

/-- The number mantissa * 2 ^ exponent. -/
structure Magnitude where
  mantissa : Nat
  exponent : Int
  deriving DecidableEq

namespace Magnitude

def ofBits (bits : Nat) : Magnitude :=
  let fraction := bits % Nat.pow 2 23
  let biased := bits / Nat.pow 2 23 % Nat.pow 2 8
  if biased = 0 then ⟨fraction, -149⟩ else ⟨Nat.pow 2 23 + fraction, Int.ofNat biased - 150⟩

/-! The interval of reals that round to a magnitude, in quarters of its last
place. Below a power of two the neighbour is only half as far away. -/

def lowest (value : Magnitude) : Nat :=
  if value.mantissa = Nat.pow 2 23 ∧ -149 < value.exponent then 4 * value.mantissa - 1
  else 4 * value.mantissa - 2

def highest (value : Magnitude) : Nat :=
  4 * value.mantissa + 2

-- One quarter of the last place of the magnitude, on a scale shared with the
-- decimal grid of step 10 ^ place.
def quarter (value : Magnitude) (place : Int) : Nat :=
  Nat.pow 2 (value.exponent - 2).toNat * Nat.pow 10 (-place).toNat

def step (value : Magnitude) (place : Int) : Nat :=
  Nat.pow 10 place.toNat * Nat.pow 2 (2 - value.exponent).toNat

-- The multiple of 10 ^ place reads back; the ends of the interval belong to even mantissas.
def readsBack (value : Magnitude) (place : Int) (multiple : Nat) : Bool :=
  let low := value.lowest * value.quarter place
  let high := value.highest * value.quarter place
  let candidate := multiple * value.step place
  if value.mantissa % 2 = 0 then low ≤ candidate && candidate ≤ high
  else low < candidate && candidate < high

/-- The multiple of 10 ^ place nearest to the magnitude among its two neighbours
that read back; halfway between them the larger one. -/
def nearest (value : Magnitude) (place : Int) : Option Nat :=
  let exact := 4 * value.mantissa * value.quarter place
  let below := exact / value.step place
  let above := below + 1
  match value.readsBack place below, value.readsBack place above with
  | true, true =>
    if above * value.step place - exact ≤ exact - below * value.step place then some above
    else some below
  | true, false => some below
  | false, true => some above
  | false, false => none

def integerPlaces (value : Magnitude) : Int :=
  let above := value.mantissa * Nat.pow 2 value.exponent.toNat
  let below := Nat.pow 2 (-value.exponent).toNat
  if below ≤ above then (Nat.toDigits 10 (above / below)).length
  else
    let zeros := (List.range 50).find? fun zeros => below ≤ above * Nat.pow 10 (zeros + 1)
    Int.negOfNat (zeros.getD 0)

/-- The multiple and the place of the coarsest decimal grid with a point that reads back. -/
def shortest (value : Magnitude) : Nat × Int :=
  let found := (List.range 9).findSome? fun i =>
    let place := value.integerPlaces - Int.ofNat (i + 1)
    (value.nearest place).map fun multiple => (multiple, place)
  found.getD (0, 0)

end Magnitude

/-- Writes digits * 10 ^ place, with zeros for the places that carry no digit. -/
def positional (digits : List Char) (place : Int) : List Char :=
  let point := Int.ofNat digits.length + place
  if 0 ≤ place then digits ++ List.replicate place.toNat '0'
  else if 0 < point then digits.take point.toNat ++ '.' :: digits.drop point.toNat
  else ['0', '.'] ++ List.replicate (-point).toNat '0' ++ digits

def trimZeros (digits : List Char) (place : Int) : List Char × Int :=
  let kept := (digits.reverse.dropWhile (· == '0')).reverse
  (kept, place + Int.ofNat (digits.length - kept.length))

def magnitudeText (bits : Nat) : String :=
  let shown := (Magnitude.ofBits bits).shortest
  let trimmed := trimZeros (Nat.toDigits 10 shown.1) shown.2
  String.ofList (positional trimmed.1 trimmed.2)

def decimal (number : Float32) : String :=
  let bits := number.toBits.toNat
  let sign := if Nat.pow 2 31 ≤ bits then "-" else ""
  let magnitude := bits % Nat.pow 2 31
  if number.isNaN then "NaN"
  else if magnitude = 0 then sign ++ "0"
  else if magnitude = 0x7f800000 then sign ++ "inf"
  else sign ++ magnitudeText magnitude

end TensorEngine.Text

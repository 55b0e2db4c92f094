import TensorEngine.Gradient.Numerical

/-! Comparing tensors and gradients: the dot product, the check of an analytical
gradient against a numerical one, and assertions of closeness. -/

set_option autoImplicit false

namespace TensorEngine.Gradient

/-- The larger of two numbers; a value that is not a number gives way to the other. -/
def larger (first second : Float32) : Float32 :=
  if first.isNaN then second
  else if second.isNaN then first
  else if first < second then second else first

-- Sum of the products of two arrays, in double precision and rounded once at its
-- end. It starts from negative zero, which changes no number it is added to.
def dotProduct (first second : Array Float32) : Except Error Float32 :=
  if first.size = second.size then
    let products := Array.zipWith (fun a b => a.toFloat * b.toFloat) first second
    .ok (products.foldl (· + ·) (-0.0)).toFloat32
  else .error (.shapeMismatch [first.size] [second.size])

def scaledError (analytical numerical : Float32) : Float32 :=
  (analytical - numerical).abs / larger (larger 1 analytical.abs) numerical.abs

structure Offender where
  index : Nat
  analytical : Float32
  numerical : Float32
  scaled : Float32

-- Takes the next pair for the worst so far if it exceeds the tolerance and is worse.
def Offender.worse (tolerance : Float32) (worst : Option Offender) (next : Offender) :
    Option Offender :=
  let replaces := match worst with
    | none => true
    | some known => known.scaled < next.scaled
  if tolerance < next.scaled && replaces then some next else worst

def offenders (analytical numerical : Array Float32) : List Offender :=
  (List.range (min analytical.size numerical.size)).filterMap fun index => do
    let a ← analytical[index]?
    let n ← numerical[index]?
    return ⟨index, a, n, scaledError a n⟩

/-- Refuses gradients of different length, and names the worst slope out of tolerance. -/
def compare (analytical numerical : Array Float32) (tolerance : Float32) : Except Error Unit :=
  if analytical.size ≠ numerical.size then .error (.gradientCount analytical.size numerical.size)
  else
    match (offenders analytical numerical).foldl (Offender.worse tolerance) none with
    | none => .ok ()
    | some worst => .error (.gradientCheck worst.analytical worst.numerical
        (worst.analytical - worst.numerical).abs worst.index)

/-- Compares an analytical gradient with the numerical one of an objective. -/
def check (objective : Objective Float32) (input : Handle) (analytical : Array Float32)
    (epsilon tolerance : Float32) (heap : Heap Float32) :
    Outcome (Heap Float32) (Event Float32) Unit :=
  (numerical objective input epsilon heap).andThen fun found heap =>
    .ofExcept heap (compare analytical found tolerance)

def firstApart (actual expected : Array Float32) (tolerance : Float32) : Option Assertion :=
  (List.range actual.size).findSome? fun index => do
    let a ← actual[index]?
    let b ← expected[index]?
    let difference := (a - b).abs
    if difference ≤ tolerance then none
    else some (.close index a b difference tolerance)

def assertClose (actual expected : Array Float32) (tolerance : Float32) : Except Failure Unit :=
  if actual.size ≠ expected.size then .error (.fault (.assertion .sameLength))
  else
    match firstApart actual expected tolerance with
    | none => .ok ()
    | some failed => .error (.fault (.assertion failed))

-- Demands equal shapes before it compares elements.
def assertTensorsClose (actual expected : Tensor Float32) (tolerance : Float32) :
    Except Failure Unit :=
  if actual.shape ≠ expected.shape then .error (.fault (.assertion .sameShape))
  else assertClose actual.data expected.data tolerance

end TensorEngine.Gradient

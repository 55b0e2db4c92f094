import TensorEngine.Error

/-! Distributions that random tensors are drawn from, and which parameters they
accept. -/

set_option autoImplicit false

namespace TensorEngine

inductive Distribution where
  /-- From `low` up to, but without, `high`. -/
  | uniform (low high : Float32)
  | normal (mean deviation : Float32)

namespace Distribution

-- An empty range is refused before one without bounds.
def validate : Distribution → Except Error Unit
  | uniform low high =>
    if high ≤ low then .error (.emptyUniformRange low high)
    else if low.isFinite && high.isFinite && (high - low).isFinite then .ok ()
    else .error .unboundedUniformRange
  | normal _ deviation =>
    if deviation.isFinite then .ok () else .error .unboundedDeviation

def settled? : Distribution → Option Float32
  | uniform .. => none
  | normal mean deviation => if deviation == 0 then some mean else none

-- How many deviations above its mean a normal draw lies with chance `tail`. A
-- rational approximation, off by less than 0.0005 for any tail up to one half.
def normalQuantile (tail : Float) : Float :=
  let t := Float.sqrt (-2 * Float.log tail)
  t - (2.515517 + t * (0.802853 + t * 0.010328)) /
    (1 + t * (1.432788 + t * (0.189269 + t * 0.001308)))

-- The lowest and the highest of `count` draws at evenly spaced quantiles, each half
-- a step away from its end. Uniform draws are multiples of 2 ^ -23 before they are
-- scaled to their range, and scaling may round the last of them up to `high`.
def outermost (distribution : Distribution) (count : Nat) : List Float32 :=
  if count = 0 then []
  else match distribution with
    | uniform low high =>
      [1, 2 * count - 1].map fun halfSteps =>
        Float32.ofNat (Nat.pow 2 23 * halfSteps / (2 * count)) / Float32.ofNat (Nat.pow 2 23) *
          (high - low) + low
    | normal mean deviation =>
      let quantile := (normalQuantile (1 / Float.ofNat (2 * count))).toFloat32
      [-quantile, quantile].map fun score => mean + deviation * score

def admits : Distribution → Float32 → Bool
  | uniform low high, draw => low ≤ draw && draw < high
  | normal .., draw => draw.isFinite

-- A sample of `count` draws stays within what is admitted. Draws grow or fall with
-- their quantile, so the outermost ones decide.
def contained (distribution : Distribution) (count : Nat) : Bool :=
  (distribution.outermost count).all distribution.admits

end Distribution

end TensorEngine

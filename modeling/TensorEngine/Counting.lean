/-! How sizes are counted. They are natural numbers here; a host counts them in words of
64 bits, and a size that no word holds wraps around. -/

set_option autoImplicit false

namespace TensorEngine

/-- Number of sizes that a word tells apart. -/
def wordSize : Nat := Nat.pow 2 64

inductive Counting where
  | unbounded
  | words
  deriving DecidableEq

namespace Counting

/-- What is left of a size once it is counted. -/
def count : Counting → Nat → Nat
  | .unbounded, size => size
  | .words, size => size % wordSize

/-- A size that is left as it is. -/
def Keeps (counting : Counting) (size : Nat) : Prop := counting.count size = size

theorem count_le (counting : Counting) (size : Nat) : counting.count size ≤ size := by
  cases counting with
  | unbounded => exact Nat.le_refl size
  | words => exact Nat.mod_le size wordSize

theorem keeps_words_iff {size : Nat} : words.Keeps size ↔ size < wordSize :=
  Nat.mod_eq_iff_lt (by decide)

-- Counting loses nothing of what is less than a size that it keeps.
theorem Keeps.of_le {counting : Counting} {size smaller : Nat} (keeps : counting.Keeps size)
    (le : smaller ≤ size) : counting.Keeps smaller := by
  cases counting with
  | unbounded => rfl
  | words => exact keeps_words_iff.mpr (Nat.lt_of_le_of_lt le (keeps_words_iff.mp keeps))

end Counting

end TensorEngine

/-! Unsigned decimal numerals: one optional plus sign, then digits, with a value
below a bound. -/

set_option autoImplicit false

namespace TensorEngine.Text

inductive NumeralError where
  | empty
  | invalidDigit
  | tooLarge
  deriving DecidableEq

def NumeralError.message : NumeralError → String
  | .empty => "cannot parse integer from empty string"
  | .invalidDigit => "invalid digit found in string"
  | .tooLarge => "number too large to fit in target type"

def digitValue (c : Char) : Nat := c.toNat - '0'.toNat

-- Reads digits behind a value already read; the first fault from the left decides.
def readDigits (bound value : Nat) : List Char → Except NumeralError Nat
  | [] => .ok value
  | c :: rest =>
    if c.isDigit then
      let next := 10 * value + digitValue c
      if next < bound then readDigits bound next rest else .error .tooLarge
    else .error .invalidDigit

-- A sign needs a digit after it, and only a plus sign is one.
def readNumeralChars (bound : Nat) : List Char → Except NumeralError Nat
  | [] => .error .empty
  | ['+'] => .error .invalidDigit
  | '+' :: digits => readDigits bound 0 digits
  | digits => readDigits bound 0 digits

def readNumeral (bound : Nat) (text : String) : Except NumeralError Nat :=
  readNumeralChars bound text.toList

end TensorEngine.Text

/-! Bracketed lists and parenthesised tuples of numbers. -/

set_option autoImplicit false

namespace TensorEngine.Text

def commaSeparated (values : List Nat) : String :=
  String.intercalate ", " (values.map toString)

def bracketed (values : List Nat) : String :=
  "[" ++ commaSeparated values ++ "]"

def parenthesised (values : List Nat) : String :=
  "(" ++ commaSeparated values ++ ")"

def pair (values : Nat × Nat) : String :=
  parenthesised [values.1, values.2]

end TensorEngine.Text

/-
Why tokens have no value.

Main definitions:

* `LiteralError` — the reasons;
* `LiteralError.message` — their texts.
-/

import TeachingTree.Number.Limit
import TeachingTree.Text.Quoted

set_option relaxedAutoImplicit false
set_option autoImplicit false

namespace TeachingTree

/-- Why a token has no value. -/
inductive LiteralError where
  /-- The text is no integer in the base. -/
  | notInteger (base : Nat) (text : String)
  /-- The integer has so many digits, which are too many. -/
  | tooLong (digits : Nat)
  /-- The text is no floating-point number. -/
  | notFloating (text : String)
  /-- The text is no hexadecimal floating-point number. -/
  | notHexadecimal
  /-- The hexadecimal number is beyond the largest finite one. -/
  | tooLarge
  /-- The integer is beyond the largest finite floating-point number. -/
  | integerTooLarge
  /-- The piece of a text with this number is a row of values. -/
  | notText (index : Nat)
  /-- A value of a type that can change is used as a key. -/
  | notKey (typeName : String)
  deriving DecidableEq, Repr

namespace LiteralError

/-- The number of characters of a quoted form that a message holds at most. -/
def quotedLength : Nat := 200

/-- The text of the error. -/
def message : LiteralError → String
  | .notInteger base text =>
    "invalid literal for int() with base " ++ toString base ++ ": " ++
      String.ofList ((Text.quoted text).toList.take quotedLength)
  | .tooLong digits =>
    "Exceeds the limit (" ++ toString maxDigits ++ " digits) for integer string conversion: " ++
      "value has " ++ toString digits ++
      " digits; use sys.set_int_max_str_digits() to increase the limit"
  | .notFloating text => "could not convert string to float: " ++ Text.quoted text
  | .notHexadecimal => "invalid hexadecimal floating-point string"
  | .tooLarge => "hexadecimal value too large to represent as a float"
  | .integerTooLarge => "int too large to convert to float"
  | .notText index =>
    "sequence item " ++ toString index ++ ": expected str instance, tuple found"
  | .notKey typeName => "unhashable type: '" ++ typeName ++ "'"

end LiteralError

end TeachingTree

/-
Why values are not written as JSON.

Main definitions:

* `Json.TextError` — the reasons;
* `Json.TextError.message` — their texts.
-/

import TeachingTree.Number.Limit

set_option relaxedAutoImplicit false
set_option autoImplicit false

namespace TeachingTree.Json

/-- Why a value is not written. -/
inductive TextError where
  /-- The indentation is beyond all counts. -/
  | indentRange
  /-- The indentation does not fit in memory. -/
  | indentMemory
  /-- An integer has too many digits. -/
  | digits
  /-- A value has a type that has no JSON form. -/
  | unsupported (typeName : String)
  /-- A key has a type that has no JSON form as a key. -/
  | unsupportedKey (typeName : String)
  deriving DecidableEq, Repr

/-- The text of the error. -/
def TextError.message : TextError → String
  | .indentRange => "cannot fit 'int' into an index-sized integer"
  | .indentMemory => ""
  | .digits => digitsMessage
  | .unsupported typeName => "Object of type " ++ typeName ++ " is not JSON serializable"
  | .unsupportedKey typeName => "keys must be str, int, float, bool or None, not " ++ typeName

end TeachingTree.Json

/-
Constants: the values that literals stand for.

A literal stands for null, a truth value, a number, a text, bytes, the ellipsis, or a collection of
such values.  Texts are kept as code points, since they may hold halves of surrogate pairs.

Main definitions:

* `Constant` — the values;
* `Constant.ofString` — the text of a string;
* `Constant.typeName` — the name of the type of a value.
-/

import TeachingTree.Number.Binary64
import TeachingTree.Text.CodePoint

set_option relaxedAutoImplicit false
set_option autoImplicit false

namespace TeachingTree

/-- The value of a literal. -/
inductive Constant where
  /-- No value. -/
  | null
  /-- A truth value. -/
  | bool (value : Bool)
  /-- An integer. -/
  | integer (value : Int)
  /-- A floating-point number. -/
  | floating (value : Binary64)
  /-- A number with an imaginary part. -/
  | complex (real imaginary : Binary64)
  /-- A text. -/
  | text (points : List Text.CodePoint)
  /-- Bytes. -/
  | bytes (value : List UInt8)
  /-- The ellipsis. -/
  | ellipsis
  /-- A fixed row of values. -/
  | tuple (items : List Constant)
  /-- Values in order. -/
  | list (items : List Constant)
  /-- Values without order, each of them once. -/
  | set (items : List Constant)
  /-- Keys and their values, in the order of the keys. -/
  | mapping (entries : List (Constant × Constant))

namespace Constant

/-- The text of a string. -/
def ofString (s : String) : Constant := .text (Text.CodePoint.ofString s)

/-- The code points of a value that is a text. -/
def text? : Constant → Option (List Text.CodePoint)
  | .text points => some points
  | _ => none

/-- The name of the type of a value. -/
def typeName : Constant → String
  | .null => "NoneType"
  | .bool _ => "bool"
  | .integer _ => "int"
  | .floating _ => "float"
  | .complex _ _ => "complex"
  | .text _ => "str"
  | .bytes _ => "bytes"
  | .ellipsis => "ellipsis"
  | .tuple _ => "tuple"
  | .list _ => "list"
  | .set _ => "set"
  | .mapping _ => "dict"

@[simp] theorem text?_text (points : List Text.CodePoint) : text? (.text points) = some points :=
  rfl

end Constant

end TeachingTree

/-
JSON values.

Objects keep their members in the order in which they are written.  Numbers are integers of any
size and floating-point numbers, which a document distinguishes.  Texts that hold halves of
surrogate pairs are apart from all others.  The place of what has no JSON form holds the reason, so
that the first such place is known when the value is written.

Main definitions:

* `Json` — the values;
* `Json.member?` — the value under a key of an object.
-/

import TeachingTree.Json.Error
import TeachingTree.Number.Binary64
import TeachingTree.Text.CodePoint

set_option relaxedAutoImplicit false
set_option autoImplicit false

namespace TeachingTree

/-- A JSON value. -/
inductive Json where
  /-- The null value. -/
  | null
  /-- A truth value. -/
  | bool (value : Bool)
  /-- An integer. -/
  | integer (value : Int)
  /-- A floating-point number. -/
  | floating (value : Binary64)
  /-- A text. -/
  | text (value : String)
  /-- A list of values. -/
  | array (items : List Json)
  /-- Named values, in order. -/
  | object (members : List (String × Json))
  /-- A text that holds halves of surrogate pairs. -/
  | points (value : List Text.CodePoint)
  /-- The place of what has no JSON form. -/
  | refused (reason : Json.TextError)
  deriving Inhabited

namespace Json

/-- The value of a text of code points. -/
def ofPoints (points : List Text.CodePoint) : Json :=
  match Text.CodePoint.string? points with
  | some s => .text s
  | none => .points points

@[simp] theorem ofPoints_ofString (s : String) :
    ofPoints (Text.CodePoint.ofString s) = .text s := by
  simp [ofPoints]

/-- The value under a key of an object. -/
def member? (key : String) : Json → Option Json
  | .object members => members.lookup key
  | _ => none

end Json

end TeachingTree

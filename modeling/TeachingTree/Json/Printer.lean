/-
The text of a JSON value.

Main definitions:

* `Json.Layout` — everything on one line, or one item per line with an indentation;
* `Json.escape` — a character between the quotes of a text;
* `Json.renderAt`, `Json.render` — the text of a value;
* `Json.fault?` — why a value is not written;
* `Json.write` — the text of a value that can be written.

Only the quote, the backslash and the controls below U+0020 are escaped, so that all other
characters stand for themselves.  For the text to be written, the indentation and the integers have
to keep within limits, and every part must have a JSON form.  How many spaces fit in memory differs
from one machine to the next, so that limit is given with each text.
-/

import TeachingTree.Json.Value
import TeachingTree.Number.Shortest
import TeachingTree.Text.Quoted

set_option relaxedAutoImplicit false
set_option autoImplicit false

namespace TeachingTree.Json

/-! ### Layout -/

/-- How the items of lists and objects are laid out. -/
inductive Layout where
  /-- All on one line. -/
  | oneLine
  /-- One item per line, each level indented by so many spaces more. -/
  | indented (spaces : Nat)
  deriving DecidableEq, Repr

namespace Layout

/-- No indentation means one line; a negative one counts as zero. -/
def ofIndent : Option Int → Layout
  | none => .oneLine
  | some n => .indented n.toNat

/-- What stands before an item at a level, and before the closing bracket one level up. -/
def lineBreak (layout : Layout) (level : Nat) : List Char :=
  match layout with
  | .oneLine => []
  | .indented spaces => '\n' :: List.replicate (spaces * level) ' '

/-- What stands between two items at a level. -/
def separator (layout : Layout) (level : Nat) : List Char :=
  match layout with
  | .oneLine => [',', ' ']
  | .indented _ => ',' :: layout.lineBreak level

end Layout

/-! ### Texts -/

/-- A character between the quotes of a text. -/
def escape (c : Char) : List Char :=
  if c == '"' then ['\\', '"']
  else if c == '\\' then ['\\', '\\']
  else if c == '\n' then ['\\', 'n']
  else if c == '\r' then ['\\', 'r']
  else if c == '\t' then ['\\', 't']
  else if c == '\x08' then ['\\', 'b']
  else if c == '\x0c' then ['\\', 'f']
  else if c.toNat < 0x20 then '\\' :: 'u' :: Text.hexDigits 4 c.toNat
  else [c]

/-- A text between quotes. -/
def renderText (s : String) : List Char := '"' :: s.toList.flatMap escape ++ ['"']

/-! ### Values -/

/-- An integer in decimal digits. -/
def renderInteger (n : Int) : List Char :=
  if n < 0 then '-' :: Nat.toDigits 10 n.natAbs else Nat.toDigits 10 n.natAbs

mutual

/-- The text of a value whose items are one level deeper than the given level. -/
def renderAt (layout : Layout) (level : Nat) : Json → List Char
  | .null => "null".toList
  | .bool true => "true".toList
  | .bool false => "false".toList
  | .integer n => renderInteger n
  | .floating x => (NumberStyle.document.text x).toList
  | .text s => renderText s
  | .array [] => ['[', ']']
  | .array (item :: items) =>
    '[' :: layout.lineBreak (level + 1) ++ renderAt layout (level + 1) item
      ++ renderItems layout (level + 1) items ++ layout.lineBreak level ++ [']']
  | .object [] => ['{', '}']
  | .object ((key, value) :: members) =>
    '{' :: layout.lineBreak (level + 1) ++ renderText key ++ ':' :: ' '
      :: renderAt layout (level + 1) value ++ renderMembers layout (level + 1) members
      ++ layout.lineBreak level ++ ['}']
  | .points value => renderText (String.ofList (Text.CodePoint.join value))
  | .refused _ => []

/-- The texts of the items after the first, each with the separator before it. -/
def renderItems (layout : Layout) (level : Nat) : List Json → List Char
  | [] => []
  | item :: items =>
    layout.separator level ++ renderAt layout level item ++ renderItems layout level items

/-- The texts of the members after the first, each with the separator before it. -/
def renderMembers (layout : Layout) (level : Nat) : List (String × Json) → List Char
  | [] => []
  | (key, value) :: members =>
    layout.separator level ++ renderText key ++ ':' :: ' ' :: renderAt layout level value
      ++ renderMembers layout level members

end

/-- The text of a value with the given indentation. -/
def render (indent : Option Int) (value : Json) : String :=
  String.ofList (renderAt (.ofIndent indent) 0 value)

/-! ### Limits -/

/-- Counts are less than this, and not less than its negative. -/
def countLimit : Int := Int.ofNat (Nat.pow 2 63)

/-- Checks an indentation, where memory has room for so many spaces. -/
def checkIndent (room : Nat) : Option Int → Except TextError Unit
  | none => .ok ()
  | some n =>
    if n < -countLimit ∨ countLimit ≤ n then .error .indentRange
    else if Int.ofNat room < n then .error .indentMemory
    else .ok ()

mutual

/-- Why a value is not written, whatever the indentation: the first reason in the order of the
text. -/
def fault? : Json → Option TextError
  | .integer n => if fitsDigits n then none else some .digits
  | .array items => faultOfItems? items
  | .object members => faultOfMembers? members
  | .refused reason => some reason
  | _ => none

/-- Why some of the values is not written. -/
def faultOfItems? : List Json → Option TextError
  | [] => none
  | item :: items => (fault? item).or (faultOfItems? items)

/-- Why some of the members is not written. -/
def faultOfMembers? : List (String × Json) → Option TextError
  | [] => none
  | (_, value) :: members => (fault? value).or (faultOfMembers? members)

end

/-- The text of a value with the given indentation, if it can be written where memory has room for
so many spaces. -/
def write (room : Nat) (indent : Option Int) (value : Json) : Except TextError String := do
  checkIndent room indent
  match value.fault? with
  | some e => .error e
  | none => .ok (value.render indent)

theorem write_eq_ok_iff {room : Nat} {indent : Option Int} {value : Json} {text : String} :
    value.write room indent = .ok text ↔
      checkIndent room indent = .ok () ∧ value.fault? = none ∧ value.render indent = text := by
  unfold write
  cases checkIndent room indent with
  | error e => simp [bind, Except.bind]
  | ok u => cases value.fault? <;> simp [bind, Except.bind]

end TeachingTree.Json

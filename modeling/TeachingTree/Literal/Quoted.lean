/-
Character and string literals.

A token has an optional encoding, an optional `R` for raw literals, and a quoted part.  A raw
literal stands for the text between its delimiters.  Any other token is read as an expression with
the escape `\?` replaced by its question mark, so that it may also stand for a row of values; a body
that is no constant expression stands for itself.  Which names a character may be given by is up to
a table of names.

Main definitions:

* `QuotedToken` — a token taken apart, and `QuotedToken.ofText?`;
* `rawText` — the text of a raw literal;
* `decodeQuoted` — the value of a token;
* `decodePieces` — the text of several tokens.
-/

import TeachingTree.Literal.Expression
import TeachingTree.Literal.Number
import TeachingTree.Text.Search

set_option relaxedAutoImplicit false
set_option autoImplicit false

namespace TeachingTree.Literal

open Text

/-- A token of a character or string literal, taken apart. -/
structure QuotedToken where
  /-- Whether it is raw. -/
  isRaw : Bool
  /-- Its quote. -/
  quote : Char
  /-- All that follows the opening quote. -/
  rest : List Char
  deriving DecidableEq, Repr

namespace QuotedToken

/-- The encodings that a token may name. -/
def encodings : List (List Char) := ["u8".toList, "u".toList, "U".toList, "L".toList, []]

/-- The token of a text that has no encoding. -/
def ofQuoted? : List Char → Option QuotedToken
  | 'R' :: c :: rest => if isQuote c then some ⟨true, c, rest⟩ else none
  | c :: rest => if isQuote c then some ⟨false, c, rest⟩ else none
  | [] => none

/-- The token of a text. -/
def ofText? (cs : List Char) : Option QuotedToken :=
  encodings.findSome? fun encoding => (Text.dropStart? encoding cs).bind ofQuoted?

/-- The characters between the opening quote and the closing one, which may be missing. -/
def body (t : QuotedToken) : List Char :=
  if t.rest.getLast? = some t.quote then t.rest.dropLast else t.rest

end QuotedToken

/-- The text of a raw literal: what stands between its delimiters and parentheses. -/
def rawText (body : List Char) : List Char :=
  let delimiter := body.takeWhile (· != '(')
  match body.drop delimiter.length with
  | [] => body
  | _ :: inner => inner.take (inner.length - (delimiter.length + 1))

/-- The text with the escape `\?` replaced by its question mark. -/
def plainQuestionMarks : List Char → List Char
  | [] => []
  | '\\' :: '?' :: rest => '?' :: plainQuestionMarks rest
  | c :: rest => c :: plainQuestionMarks rest

/-- The value of a token: the text of a raw literal, the value of an expression, or else the body
itself; a text that is no token stands for itself. -/
def decodeQuoted (names : CharacterNames) (text : String) : Except LiteralError Constant :=
  match QuotedToken.ofText? text.toList with
  | none => .ok (.ofString text)
  | some token =>
    let body := token.body
    if token.isRaw then .ok (.text ((rawText body).map .char))
    else
      let expression := token.quote :: plainQuestionMarks body ++ [token.quote]
      (readExpression names expression).map fun value => value.getD (.text (body.map .char))

/-- The code points of values that are texts, one after the other.  The first value that is no
text is refused; `index` values come before. -/
def joinPieces (index : Nat) : List Constant → Except LiteralError (List CodePoint)
  | [] => .ok []
  | value :: values =>
    match value.text? with
    | some points => (joinPieces (index + 1) values).map (points ++ ·)
    | none => .error (.notText index)

/-- The code points of the text of tokens, the values of all of which are found first. -/
def decodePieces (names : CharacterNames) (texts : List String) :
    Except LiteralError (List CodePoint) := do
  joinPieces 0 (← texts.mapM (decodeQuoted names))

end TeachingTree.Literal

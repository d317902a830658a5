/-
What the tokens of a cursor tell.

Some parts of a program are exposed by its tokens alone: how a variable is initialised, where the
clauses of a loop begin and end, and which operator joins two operands.

Main definitions:

* `skipBounds` — the tokens after the array bounds that they start with;
* `initStyle?` — how a variable is initialised;
* `ForHeader` — the ends of the clauses of a loop, and `ForHeader.ofTokens`;
* `operatorAfter` — the operator that follows an operand.
-/

import TeachingTree.Cursor.Basic
import TeachingTree.Source.Node

set_option relaxedAutoImplicit false
set_option autoImplicit false

namespace TeachingTree

/-! ### Initial values -/

/-- The tokens after the groups in square brackets that they start with, where `depth` brackets are
open before them. -/
def skipBounds : Nat → List Token → List Token
  | _, [] => []
  | 0, token :: rest => if token.spelling == "[" then skipBounds 1 rest else token :: rest
  | depth + 1, token :: rest =>
    if token.spelling == "[" then skipBounds (depth + 2) rest
    else if token.spelling == "]" then skipBounds depth rest
    else skipBounds (depth + 1) rest

/-- The way of initialisation that a token begins. -/
def styleOfToken? (spelling : String) : Option InitStyle :=
  if spelling == "=" then some .assigned
  else if spelling == "(" then some .called
  else if spelling == "\x7b" then some .listed
  else none

/-- How the variable whose name stands at the given offset is initialised: the token after the name
and the array bounds tells. -/
def initStyle? (nameOffset : Int) (tokens : List Token) : Option InitStyle :=
  match tokens.dropWhile (·.start != nameOffset) with
  | [] => none
  | _ :: rest => match skipBounds 0 rest with
    | [] => none
    | token :: _ => styleOfToken? token.spelling

/-! ### Loop headers -/

/-- The largest offset, at which a parenthesis that is missing is taken to be. -/
def maxOffset : Int := 9223372036854775807

/-- The offsets at which the three clauses of a loop end. -/
structure ForHeader where
  /-- The semicolon after the first clause. -/
  first : Int
  /-- The semicolon after the second clause. -/
  second : Int
  /-- The parenthesis after the third clause. -/
  close : Int
  deriving DecidableEq, Repr

/-- The semicolons inside one pair of parentheses, up to the parenthesis that closes the pair, and
that parenthesis; `depth` parentheses are open before the tokens. -/
def headerMarks (depth : Int) : List Token → List Int × Int
  | [] => ([], maxOffset)
  | token :: rest =>
    if token.spelling == "(" then headerMarks (depth + 1) rest
    else if token.spelling == ")" then
      if depth = 1 then ([], token.start) else headerMarks (depth - 1) rest
    else if token.spelling == ";" && depth == 1 then
      let (semicolons, close) := headerMarks depth rest
      (token.start :: semicolons, close)
    else headerMarks depth rest

namespace ForHeader

/-- The header at the start of the tokens of a loop.  A missing semicolon is taken to be at the
closing parenthesis. -/
def ofTokens (tokens : List Token) : ForHeader :=
  let (semicolons, close) := headerMarks 0 tokens
  ⟨semicolons[0]?.getD close, semicolons[1]?.getD close, close⟩

end ForHeader

/-! ### Operators -/

/-- The first token that starts at the end of an operand or later, or the empty text. -/
def operatorAfter (stop : Int) (tokens : List Token) : String :=
  ((tokens.find? fun token => stop ≤ token.start).map Token.spelling).getD ""

end TeachingTree

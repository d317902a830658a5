/-
Rows: what stands between two brackets, or makes up a whole expression.

A row has parts with commas between them, and possibly a comma at its end.  What the parts may be,
and what the row then is, depends on the brackets.

Main definitions:

* `Bracket` — the places of rows;
* `Part`, `Row` — the parts, and what has been read of a row;
* `Row.term?` — the term that a row makes in its place.
-/

import TeachingTree.Literal.Term

set_option relaxedAutoImplicit false
set_option autoImplicit false

namespace TeachingTree.Literal

/-- The places in which rows stand. -/
inductive Bracket where
  /-- A whole expression. -/
  | whole
  /-- Parentheses. -/
  | round
  /-- Square brackets. -/
  | square
  /-- Braces. -/
  | curly
  /-- Parentheses after what is called. -/
  | arguments
  /-- Square brackets after what is indexed. -/
  | index
  /-- Parentheses in which the word `yield` comes first. -/
  | yielding
  deriving DecidableEq, Repr

namespace Bracket

/-- The mark that ends a row; nothing but the end ends a whole expression. -/
def closing? : Bracket → Option String
  | .whole => none
  | .square => some "]"
  | .index => some "]"
  | .curly => some "\x7d"
  | _ => some ")"

/-- Whether what follows a star may be any expression, and not just one without comparisons. -/
def starsAny : Bracket → Bool
  | .arguments => true
  | .index => true
  | _ => false

end Bracket

/-- A part of a row. -/
inductive Part where
  /-- A term. -/
  | item (term : Term)
  /-- A term that is given a name. -/
  | named
  /-- A term after a star. -/
  | starred (isTarget : Bool)
  /-- A term after two stars. -/
  | doublyStarred
  /-- An argument that is given by name. -/
  | keyword
  /-- A key and what it stands for. -/
  | entry (key value : Term)
  /-- The bounds of a range. -/
  | range
  /-- What is generated from a loop: terms, or entries. -/
  | generated (isEntry : Bool)

namespace Part

/-- The term that a part contributes to a row of terms. -/
def term? : Part → Option Term
  | .item term => some term
  | .named => some (.other false)
  | .starred isTarget => some (.other isTarget)
  | _ => none

/-- The entry that a part contributes to a mapping. -/
def entry? : Part → Option (Term × Term)
  | .entry key value => some (key, value)
  | .doublyStarred => some (.other false, .other false)
  | _ => none

/-- Whether a part is a term and nothing else. -/
def isItem : Part → Bool
  | .item _ => true
  | _ => false

/-- Whether a part is a term, possibly after a star. -/
def isValue : Part → Bool
  | .item _ => true
  | .starred _ => true
  | _ => false

/-- Whether a part is a term, possibly given a name. -/
def isTerm : Part → Bool
  | .item _ => true
  | .named => true
  | _ => false

/-- Whether a part may stand in an index. -/
def isIndex (part : Part) : Bool := part.term?.isSome || part matches .range

end Part

/-- What has been read of a row. -/
structure Row where
  /-- Its parts. -/
  parts : List Part := []
  /-- Whether a comma follows the last one. -/
  endsWithComma : Bool := false

/-- Whether arguments may stand in this order: those without names, those with names, and those
after two stars.  Arguments after one star may stand among the first two. -/
def argumentsInOrder (afterKeyword afterDouble : Bool) : List Part → Bool
  | [] => true
  | part :: parts => match part with
    | .item _ => !afterKeyword && !afterDouble && argumentsInOrder afterKeyword afterDouble parts
    | .named => !afterKeyword && !afterDouble && argumentsInOrder afterKeyword afterDouble parts
    | .starred _ => !afterDouble && argumentsInOrder afterKeyword afterDouble parts
    | .keyword => argumentsInOrder true afterDouble parts
    | .doublyStarred => argumentsInOrder afterKeyword true parts
    | _ => false

namespace Row

/-- The only part of a row, if no comma follows it. -/
def only? (row : Row) : Option Part :=
  match row.parts, row.endsWithComma with
  | [part], false => some part
  | _, _ => none

/-- The row as terms. -/
def terms? (row : Row) : Option (List Term) := row.parts.mapM Part.term?

/-- A row in parentheses: a single term without a comma is that term. -/
def grouped? (row : Row) : Option Term :=
  match row.only? with
  | some (.item term) => some term
  | some .named => some (.other false)
  | some (.starred _) => none
  | some (.generated false) => some (.other false)
  | _ => row.terms?.map .tuple

/-- A row in square brackets. -/
def listed? (row : Row) : Option Term :=
  match row.only? with
  | some (.generated false) => some (.other false)
  | _ => row.terms?.map .list

/-- A row in braces: a mapping unless it has terms. -/
def collected? (row : Row) : Option Term :=
  match row.only? with
  | some (.generated _) => some (.other false)
  | _ => match row.parts.mapM Part.entry? with
    | some entries => some (.mapping entries)
    | none => row.terms?.map .set

/-- Whether a row may be the arguments of a call. -/
def areArguments (row : Row) : Bool :=
  match row.only? with
  | some (.generated false) => true
  | _ => argumentsInOrder false false row.parts

/-- The term that a row makes in its place. -/
def term? (row : Row) : Bracket → Option Term
  | .whole => if !row.parts.isEmpty && row.parts.all Part.isItem then row.grouped? else none
  | .round => row.grouped?
  | .square => row.listed?
  | .curly => row.collected?
  | .arguments => if row.areArguments then some (.other false) else none
  | .index => if !row.parts.isEmpty && row.parts.all Part.isIndex then some (.other true) else none
  | .yielding => if row.parts.all Part.isValue then some (.other false) else none

/-- The term that a call with a row of arguments is: the only call with a value is that of `set`
without arguments. -/
def called? (row : Row) (callee : Term) : Option Term :=
  match callee, row.parts with
  | .name "set", [] => some (.set [])
  | _, _ => row.term? .arguments

end Row

end TeachingTree.Literal

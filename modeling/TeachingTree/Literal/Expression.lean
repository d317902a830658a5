/-
Expressions, read from their lexemes.

An expression is a chain of operands with operators between them, possibly a choice between two such
chains by a condition, or a function of parameters.  An operand is an atom with calls, indices and
attributes after it and signs before it.

Every reader takes lexemes off the front and gives back the rest.  The first number bounds how deep
readers call each other; each lexeme is met by less than ten of them.  It is no limit of the
language: apart from the number of open brackets, expressions may be nested as deep as the stack of
a reader allows, and the stack is taken to be deep enough for every text.

Main definitions:

* `expression?` — the reader of expressions, with those of their parts;
* `termOf?` — the term of a whole list of lexemes;
* `readTerm?`, `readExpression` — the term and the value of a whole text.
-/

import TeachingTree.Literal.Operator
import TeachingTree.Literal.Parameter
import TeachingTree.Literal.Row

set_option relaxedAutoImplicit false
set_option autoImplicit false

namespace TeachingTree.Literal

open Text

/-! ### Readers -/

/-- What follows the end of a row in its place, if it ends here. -/
def afterRow? (bracket : Bracket) : List Lexeme → Option (List Lexeme)
  | [] => if bracket.closing? = none then some [] else none
  | .mark text :: rest => if bracket.closing? = some text then some rest else none
  | _ => none

/-- What follows a star, if there is one. -/
def afterStar : List Lexeme → List Lexeme
  | .mark "*" :: rest => rest
  | lexemes => lexemes

/-- Whether a loop that generates parts starts here. -/
def startsLoop : List Lexeme → Bool
  | .word "for" :: _ => true
  | .word "async" :: .word "for" :: _ => true
  | _ => false

mutual

/-- Reads an expression. -/
def expression? : Nat → List Lexeme → Option (Term × List Lexeme)
  | 0, _ => none
  | depth + 1, .word "lambda" :: rest => do
    let (parameters, rest) ← parameters? depth rest
    let (_, rest) ← expression? depth rest
    if parametersInOrder false true false parameters then some (.other false, rest) else none
  | depth + 1, lexemes => do
    let (term, rest) ← chain? false depth lexemes
    match rest with
    | .word "if" :: rest => do
      let (_, rest) ← chain? false depth rest
      match rest with
      | .word "else" :: rest => (expression? depth rest).map fun (_, rest) => (.other false, rest)
      | _ => none
    | rest => some (term, rest)

/-- Reads the parameters of a function and the colon after them. -/
def parameters? : Nat → List Lexeme → Option (List Parameter × List Lexeme)
  | 0, _ => none
  | _ + 1, .mark ":" :: rest => some ([], rest)
  | depth + 1, lexemes => do
    let (parameter, rest) ← parameter? depth lexemes
    match rest with
    | .mark "," :: rest =>
      (parameters? depth rest).map fun (parameters, rest) => (parameter :: parameters, rest)
    | .mark ":" :: rest => some ([parameter], rest)
    | _ => none

/-- Reads a parameter of a function. -/
def parameter? : Nat → List Lexeme → Option (Parameter × List Lexeme)
  | depth + 1, .word text :: .mark "=" :: rest => do
    let _ ← name? text
    (expression? depth rest).map fun (_, rest) => (.plain true, rest)
  | _ + 1, .word text :: rest => (name? text).map fun _ => (.plain false, rest)
  | _ + 1, .mark "/" :: rest => some (.slash, rest)
  | _ + 1, .mark "*" :: .word text :: rest => (name? text).map fun _ => (.starred, rest)
  | _ + 1, .mark "*" :: rest => some (.star, rest)
  | _ + 1, .mark "**" :: .word text :: rest => (name? text).map fun _ => (.doublyStarred, rest)
  | _, _ => none

/-- Reads operands with operators between them, only strong ones if `isStrong`. -/
def chain? (isStrong : Bool) : Nat → List Lexeme → Option (Term × List Lexeme)
  | 0, _ => none
  | depth + 1, lexemes => do
    let (term, rest) ← operand? (!isStrong) depth lexemes
    chainFrom? isStrong depth term rest

/-- Reads the operators and operands after a term. -/
def chainFrom? (isStrong : Bool) : Nat → Term → List Lexeme → Option (Term × List Lexeme)
  | 0, _, _ => none
  | depth + 1, term, lexemes =>
    match operator? isStrong lexemes with
    | none => some (term, lexemes)
    | some (operator, rest) => do
      let (right, rest) ← operand? (joinsConditions operator) depth rest
      chainFrom? isStrong depth (term.combine operator right) rest

/-- Reads an operand, with negations before it if they are allowed. -/
def operand? (negations : Bool) : Nat → List Lexeme → Option (Term × List Lexeme)
  | 0, _ => none
  | depth + 1, lexemes =>
    let (isNegated, rest) := takeNegations lexemes
    let (signs, rest) := takeSigns rest
    let (isAwaited, rest) := takeAwait rest
    if isNegated && !negations then none
    else (primary? depth rest).map fun (term, rest) =>
      (prefixed isNegated isAwaited signs term, rest)

/-- Reads an atom and what is called, indexed or named on it. -/
def primary? : Nat → List Lexeme → Option (Term × List Lexeme)
  | 0, _ => none
  | depth + 1, lexemes => do
    let (term, rest) ← atom? depth lexemes
    primaryFrom? depth term rest

/-- Reads the calls, indices and attributes after a term. -/
def primaryFrom? : Nat → Term → List Lexeme → Option (Term × List Lexeme)
  | 0, _, _ => none
  | depth + 1, _, .mark "." :: .word text :: rest => do
    let _ ← name? text
    primaryFrom? depth (.other true) rest
  | depth + 1, term, .mark "(" :: rest => do
    let (row, rest) ← row? .arguments depth rest
    primaryFrom? depth (← row.called? term) rest
  | depth + 1, _, .mark "[" :: rest => do
    let (row, rest) ← row? .index depth rest
    primaryFrom? depth (← row.term? .index) rest
  | _, term, lexemes => some (term, lexemes)

/-- Reads an expression that needs no brackets around it anywhere. -/
def atom? : Nat → List Lexeme → Option (Term × List Lexeme)
  | _, .text points :: rest => some (takeTexts true points rest)
  | _, .template _ :: rest => some (takeTexts false [] rest)
  | _, .bytes value :: rest => some (takeBytes value rest)
  | _, .number value :: rest => some (.number value, rest)
  | _, .word text :: rest => (wordTerm? text).map fun term => (term, rest)
  | _, .mark "..." :: rest => some (.leaf .ellipsis, rest)
  | depth + 1, .mark "(" :: .word "yield" :: .word "from" :: rest => do
    let (_, rest) ← expression? depth rest
    (afterRow? .round rest).map fun rest => (.other false, rest)
  | depth + 1, .mark "(" :: .word "yield" :: rest => enclosed? .yielding depth rest
  | depth + 1, .mark "(" :: rest => enclosed? .round depth rest
  | depth + 1, .mark "[" :: rest => enclosed? .square depth rest
  | depth + 1, .mark "\x7b" :: rest => enclosed? .curly depth rest
  | _, _ => none

/-- Reads a row, and makes a term of it. -/
def enclosed? (bracket : Bracket) : Nat → List Lexeme → Option (Term × List Lexeme)
  | 0, _ => none
  | depth + 1, lexemes => do
    let (row, rest) ← row? bracket depth lexemes
    (row.term? bracket).map fun term => (term, rest)

/-- Reads the parts of a row, and what ends it. -/
def row? (bracket : Bracket) : Nat → List Lexeme → Option (Row × List Lexeme)
  | 0, _ => none
  | depth + 1, lexemes =>
    match afterRow? bracket lexemes with
    | some rest => some ({}, rest)
    | none => do
      let (part, rest) ← part? bracket depth lexemes
      match rest with
      | .mark "," :: rest => do
        let (row, rest) ← row? bracket depth rest
        let endsWithComma := row.parts.isEmpty || row.endsWithComma
        some ({ parts := part :: row.parts, endsWithComma }, rest)
      | rest => (afterRow? bracket rest).map fun rest => ({ parts := [part] }, rest)

/-- Reads a part of a row. -/
def part? (bracket : Bracket) : Nat → List Lexeme → Option (Part × List Lexeme)
  | 0, _ => none
  | depth + 1, .mark "*" :: rest =>
    (starred? bracket depth rest).map fun (term, rest) => (.starred term.isTarget, rest)
  | depth + 1, .mark "**" :: rest =>
    (starred? bracket depth rest).map fun (_, rest) => (.doublyStarred, rest)
  | depth + 1, .word text :: .mark ":=" :: rest => do
    let _ ← name? text
    let (_, rest) ← expression? depth rest
    generated? depth .named rest
  | depth + 1, .word text :: .mark "=" :: rest => do
    let _ ← name? text
    (expression? depth rest).map fun (_, rest) => (.keyword, rest)
  | depth + 1, .mark ":" :: rest => (bounds? depth rest).map fun rest => (.range, rest)
  | depth + 1, lexemes => do
    let (term, rest) ← expression? depth lexemes
    match rest with
    | .mark ":" :: rest =>
      if bracket = .index then (bounds? depth rest).map fun rest => (.range, rest)
      else do
        let (value, rest) ← expression? depth rest
        generated? depth (.entry term value) rest
    | rest => generated? depth (.item term) rest

/-- Reads what follows a star. -/
def starred? (bracket : Bracket) : Nat → List Lexeme → Option (Term × List Lexeme)
  | 0, _ => none
  | depth + 1, lexemes =>
    if bracket.starsAny then expression? depth lexemes else chain? true depth lexemes

/-- Reads the bounds of a range after its first colon. -/
def bounds? : Nat → List Lexeme → Option (List Lexeme)
  | 0, _ => none
  | depth + 1, lexemes => do
    let rest ← bound? depth lexemes
    match rest with
    | .mark ":" :: rest => bound? depth rest
    | rest => some rest

/-- Reads a bound of a range, which may be missing. -/
def bound? : Nat → List Lexeme → Option (List Lexeme)
  | _, .mark ":" :: rest => some (.mark ":" :: rest)
  | _, .mark "," :: rest => some (.mark "," :: rest)
  | _, .mark "]" :: rest => some (.mark "]" :: rest)
  | depth + 1, lexemes => (expression? depth lexemes).map fun (_, rest) => rest
  | 0, _ => none

/-- Reads the loops that generate a part, if there are any. -/
def generated? : Nat → Part → List Lexeme → Option (Part × List Lexeme)
  | 0, _, _ => none
  | depth + 1, part, lexemes =>
    if startsLoop lexemes then
      (loops? depth lexemes).map fun rest => (.generated !part.isTerm, rest)
    else some (part, lexemes)

/-- Reads loops and conditions. -/
def loops? : Nat → List Lexeme → Option (List Lexeme)
  | depth + 1, .word "async" :: .word "for" :: rest => do
    let rest ← targets? depth rest
    let (_, rest) ← chain? false depth rest
    loops? depth rest
  | depth + 1, .word "for" :: rest => do
    let rest ← targets? depth rest
    let (_, rest) ← chain? false depth rest
    loops? depth rest
  | depth + 1, .word "if" :: rest => do
    let (_, rest) ← chain? false depth rest
    loops? depth rest
  | _ + 1, lexemes => some lexemes
  | 0, _ => none

/-- Reads the targets of a loop and the word after them. -/
def targets? : Nat → List Lexeme → Option (List Lexeme)
  | 0, _ => none
  | depth + 1, lexemes => do
    let (term, rest) ← primary? depth (afterStar lexemes)
    match term.isTarget, rest with
    | true, .word "in" :: rest => some rest
    | true, .mark "," :: .word "in" :: rest => some rest
    | true, .mark "," :: rest => targets? depth rest
    | _, _ => none

end

/-! ### Whole expressions -/

/-- The term that lexemes make. -/
def termOf? (lexemes : List Lexeme) : Option Term := do
  let (row, _) ← row? .whole (10 * (lexemes.length + 1)) lexemes
  row.term? .whole

/-- Brings all line ends to line feeds. -/
def lineFeeds : List Char → List Char
  | [] => []
  | '\r' :: '\n' :: rest => '\n' :: lineFeeds rest
  | c :: rest => (if c == '\r' then '\n' else c) :: lineFeeds rest

/-- The expressions in the fields of a lexeme. -/
def fieldsOf : Lexeme → List (List Char)
  | .template fields => fields
  | _ => []

/-- The term that makes up a whole text.  The expressions in fields are read as if they stood in
parentheses, and may not be blank.  The number bounds how deep fields are nested. -/
def readTerm? (names : CharacterNames) : Nat → List Char → Option Term
  | 0, _ => none
  | depth + 1, cs => do
    let lexemes ← lexemes? names cs
    let isExpression (field : List Char) : Bool :=
      !allAsciiBlank field && (readTerm? names depth ('(' :: field ++ [')'])).isSome
    if (lexemes.flatMap fieldsOf).all isExpression then termOf? lexemes else none

/-- The value of the expression that makes up a whole text, which may not hold U+0000; none if there
is no such expression, or it is not constant. -/
def readExpression (names : CharacterNames) (cs : List Char) :
    Except LiteralError (Option Constant) :=
  match if cs.contains '\x00' then none else readTerm? names (cs.length + 1) (lineFeeds cs) with
  | none => .ok none
  | some term => match term.value with
    | .ok value => .ok (some value)
    | .error .notConstant => .ok none
    | .error (.failure e) => .error e

/-- A literal of text is a term by itself. -/
@[simp] theorem termOf?_text (points : List CodePoint) :
    termOf? [.text points] = some (.leaf (.text points)) := rfl

end TeachingTree.Literal

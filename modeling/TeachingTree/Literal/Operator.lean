/-
Operators of expressions, and what else stands around operands.

Since only few chains of operands have values, the binding strength of operators matters only where
it decides what may follow: comparisons and the words that join conditions are apart from all other
operators.

Main definitions:

* `name?` — the words that are names;
* `operator?` — the operators between two operands;
* `takeNegations`, `takeSigns`, `takeAwait`, `prefixed` — what stands before an operand;
* `takeTexts`, `takeBytes`, `wordTerm?` — operands of lexemes alone.
-/

import TeachingTree.Literal.Lexeme
import TeachingTree.Literal.Term

set_option relaxedAutoImplicit false
set_option autoImplicit false

namespace TeachingTree.Literal

open Text

/-! ### Operators -/

/-- The words that are no names. -/
def keywords : List String :=
  ["False", "None", "True", "and", "as", "assert", "async", "await", "break", "class", "continue",
    "def", "del", "elif", "else", "except", "finally", "for", "from", "global", "if", "import",
    "in", "is", "lambda", "nonlocal", "not", "or", "pass", "raise", "return", "try", "while",
    "with", "yield"]

/-- The name that a word is. -/
def name? (word : String) : Option String := if keywords.contains word then none else some word

/-- The operators that bind stronger than comparisons. -/
def strongOperators : List String :=
  ["+", "-", "*", "/", "//", "%", "@", "**", "<<", ">>", "&", "|", "^"]

/-- The comparisons that are marks. -/
def comparisons : List String := ["<", ">", "==", ">=", "<=", "!="]

/-- Takes an operator between two operands off the front, only a strong one if `isStrong`. -/
def operator? (isStrong : Bool) : List Lexeme → Option (String × List Lexeme)
  | .mark text :: rest =>
    if strongOperators.contains text || (!isStrong && comparisons.contains text) then
      some (text, rest)
    else none
  | .word text :: rest =>
    if isStrong then none
    else match text, rest with
      | "not", .word "in" :: rest => some ("not in", rest)
      | "is", .word "not" :: rest => some ("is not", rest)
      | text, rest => if ["and", "or", "in", "is"].contains text then some (text, rest) else none
  | _ => none

/-- Whether an operator joins conditions, so that a negation may follow it. -/
def joinsConditions (operator : String) : Bool := operator = "and" || operator = "or"

/-! ### Before operands -/

/-- The signs that lexemes start with, and what follows them. -/
def takeSigns : List Lexeme → List String × List Lexeme
  | .mark text :: rest =>
    if ["+", "-", "~"].contains text then
      let (signs, rest) := takeSigns rest
      (text :: signs, rest)
    else ([], .mark text :: rest)
  | lexemes => ([], lexemes)

/-- Whether lexemes start with negations, and what follows them. -/
def takeNegations : List Lexeme → Bool × List Lexeme
  | .word "not" :: rest => (true, (takeNegations rest).2)
  | lexemes => (false, lexemes)

/-- Whether lexemes start with the word `await`, and what follows it. -/
def takeAwait : List Lexeme → Bool × List Lexeme
  | .word "await" :: rest => (true, rest)
  | lexemes => (false, lexemes)

/-- The term after what stands before it. -/
def prefixed (isNegated isAwaited : Bool) (signs : List String) (term : Term) : Term :=
  if isNegated || isAwaited then .other false
  else match signs with
    | [] => term
    | ["+"] => term.withSign false
    | ["-"] => term.withSign true
    | _ => .other false

/-! ### Operands of lexemes alone -/

/-- Takes literals of text off the front: the term that they make together with the text before
them, and the rest.  Texts with fields are not constant. -/
def takeTexts (isConstant : Bool) (before : List CodePoint) : List Lexeme → Term × List Lexeme
  | .text points :: rest => takeTexts isConstant (before ++ points) rest
  | .template _ :: rest => takeTexts false before rest
  | lexemes => (if isConstant then .leaf (.text before) else .other false, lexemes)

/-- Takes literals of bytes off the front: the term that they make together with the bytes before
them, and the rest. -/
def takeBytes (before : List UInt8) : List Lexeme → Term × List Lexeme
  | .bytes value :: rest => takeBytes (before ++ value) rest
  | lexemes => (.leaf (.bytes before), lexemes)

/-- The term of a word.  Only a plain word is a value. -/
def wordTerm? (text : String) : Option Term :=
  match text with
  | "None" => some (.leaf .null)
  | "True" => some (.leaf (.bool true))
  | "False" => some (.leaf (.bool false))
  | text => (name? text).map fun name => .name (plainName name)

end TeachingTree.Literal

/-
Number literals.

A literal may hold single quotes between its digits and end in a suffix that names its type.  The
rest is an integer in the base that its first characters show, or a floating-point number.

Main definitions:

* `dropFinal` — a text without a suffix at its end;
* `decodeInteger`, `decodeFloating` — the values of tokens.
-/

import TeachingTree.Literal.Error
import TeachingTree.Number.Reading

set_option relaxedAutoImplicit false
set_option autoImplicit false

namespace TeachingTree.Literal

/-! ### Separators and suffixes -/

/-- The text without the quotes that separate digits. -/
def dropSeparators (cs : List Char) : List Char := cs.filter (· != '\'')

/-- The text without the part that `drop` takes off the front of its reverse.  A final line feed
stays behind that part. -/
def dropFinal (drop : List Char → List Char) (cs : List Char) : List Char :=
  match cs.reverse with
  | '\n' :: rest => (drop rest).reverse ++ ['\n']
  | rest => (drop rest).reverse

/-- The letters of integer suffixes. -/
def isIntegerSuffix (c : Char) : Bool := "uUlLzZ".toList.contains c

/-- The letters of floating-point suffixes. -/
def isFloatingSuffix (c : Char) : Bool := "fFlL".toList.contains c

/-- Drops one floating-point suffix off the front. -/
def dropFloatingSuffix : List Char → List Char
  | [] => []
  | c :: rest => if isFloatingSuffix c then rest else c :: rest

/-! ### Values -/

/-- The integer that a text denotes in a base. -/
def integerInBase (base : Nat) (cs : List Char) : Except LiteralError Int :=
  match readInteger base cs with
  | .ok n => .ok n
  | .error .malformed => .error (.notInteger base (String.ofList cs))
  | .error (.tooLong digits) => .error (.tooLong digits)

/-- The integer of a text without separators and suffix: hexadecimal after `0x`, binary after `0b`,
octal after another zero, and decimal otherwise. -/
def plainInteger : List Char → Except LiteralError Int
  | '0' :: c :: rest =>
    if c == 'x' || c == 'X' then integerInBase 16 rest
    else if c == 'b' || c == 'B' then integerInBase 2 rest
    else integerInBase 8 (c :: rest)
  | cs => integerInBase 10 cs

/-- The value of an integer token. -/
def decodeInteger (token : String) : Except LiteralError Int :=
  plainInteger (dropFinal (List.dropWhile isIntegerSuffix) (dropSeparators token.toList))

/-- The number of a text without separators and suffix: hexadecimal after `0x`, and decimal
otherwise. -/
def plainFloating (cs : List Char) : Except LiteralError Binary64 :=
  let decimal := match readFloating? cs with
    | some x => .ok x
    | none => .error (.notFloating (String.ofList cs))
  match cs with
  | '0' :: c :: rest =>
    if c == 'x' || c == 'X' then
      match readHexadecimal rest with
      | .ok x => .ok x
      | .error .malformed => .error .notHexadecimal
      | .error .tooLarge => .error .tooLarge
    else decimal
  | _ => decimal

/-- The value of a floating-point token. -/
def decodeFloating (token : String) : Except LiteralError Binary64 :=
  plainFloating (dropFinal dropFloatingSuffix (dropSeparators token.toList))

end TeachingTree.Literal

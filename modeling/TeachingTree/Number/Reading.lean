/-
Reading numbers from text.

Main definitions:

* `plainDigits` — a text with the digits of every script brought to ASCII and the blanks beyond
  ASCII to spaces;
* `readInteger` — integers in a base: blanks around, a sign, the marker of the base, digits with
  single underscores between them;
* `readFloating?` — decimal floating-point numbers, the infinities and not-a-number;
* `readHexadecimal` — hexadecimal floating-point numbers.
-/

import TeachingTree.Text.Blank
import TeachingTree.Text.Digit
import TeachingTree.Number.Binary64
import TeachingTree.Number.Limit

set_option relaxedAutoImplicit false
set_option autoImplicit false

namespace TeachingTree

open Text

/-! ### Characters of numbers -/

/-- The ASCII blanks: tab, line feed, vertical tab, form feed, carriage return and space. -/
def isAsciiBlank (c : Char) : Bool := c == ' ' || ('\t' ≤ c && c ≤ '\r')

/-- A character beyond ASCII as numbers see it: a space for a blank, the ASCII digit for a decimal
digit, and a question mark, which no number holds, for anything else. -/
def plainDigit (c : Char) : Char :=
  if c.toNat < 0x7f then c
  else if isBlank c then ' '
  else match decimalDigit? c with
    | some d => Char.ofNat ('0'.toNat + d)
    | none => '?'

/-- The text as numbers see it. -/
def plainDigits (cs : List Char) : List Char := cs.map plainDigit

/-- The text without the ASCII blanks it starts with. -/
def dropAsciiBlank (cs : List Char) : List Char := cs.dropWhile isAsciiBlank

/-- Whether only ASCII blanks are left. -/
def allAsciiBlank (cs : List Char) : Bool := cs.all isAsciiBlank

/-- Takes a sign off the front; true means minus. -/
def takeSign : List Char → Bool × List Char
  | '-' :: rest => (true, rest)
  | '+' :: rest => (false, rest)
  | rest => (false, rest)

/-- The digits that follow a digit: each may have one underscore before it. -/
def moreDigits (base : Nat) : List Char → List Nat × List Char
  | [] => ([], [])
  | '_' :: c :: rest =>
    match digitInBase? base c with
    | some d => let (ds, rest) := moreDigits base rest; (d :: ds, rest)
    | none => ([], '_' :: c :: rest)
  | c :: rest =>
    match digitInBase? base c with
    | some d => let (ds, rest) := moreDigits base rest; (d :: ds, rest)
    | none => ([], c :: rest)

/-- Takes a run of digits off the front, with single underscores between them. -/
def takeDigits (base : Nat) : List Char → List Nat × List Char
  | [] => ([], [])
  | c :: rest =>
    match digitInBase? base c with
    | some d => let (ds, rest) := moreDigits base rest; (d :: ds, rest)
    | none => ([], c :: rest)

/-! ### Integers -/

/-- The letter that marks a base after a zero, if the base has one. -/
def baseMarker? : Nat → Option Char
  | 2 => some 'b'
  | 8 => some 'o'
  | 16 => some 'x'
  | _ => none

/-- Drops the marker of the base, and one underscore after it. -/
def dropBaseMarker (base : Nat) : List Char → List Char
  | '0' :: c :: rest =>
    if baseMarker? base = some c.toLower then
      match rest with
      | '_' :: rest => rest
      | rest => rest
    else '0' :: c :: rest
  | rest => rest

/-- Why a text is no integer. -/
inductive IntegerFault where
  /-- The text does not have the form of one. -/
  | malformed
  /-- It has so many digits, which are too many. -/
  | tooLong (digits : Nat)
  deriving DecidableEq, Repr

/-- The integer that a text denotes in a base, if the whole text denotes one.  Where the number of
digits is limited, it is checked before anything that follows the digits is looked at, but for an
underscore without a digit after it. -/
def readInteger (base : Nat) (text : List Char) : Except IntegerFault Int :=
  let (negative, unsigned) := takeSign (dropAsciiBlank (plainDigits text))
  match takeDigits base (dropBaseMarker base unsigned) with
  | ([], _) => .error .malformed
  | (digits, rest) =>
    if rest.head? = some '_' then .error .malformed
    else if isLimited base ∧ maxDigits < digits.length then .error (.tooLong digits.length)
    else if allAsciiBlank rest then
      let n := ofDigits base digits
      .ok (if negative then -(n : Int) else n)
    else .error .malformed

/-! ### Decimal floating-point numbers -/

/-- Takes a signed decimal exponent off the front, after its letter. -/
def takeExponent? (cs : List Char) : Option (Int × List Char) :=
  let (negative, rest) := takeSign cs
  match takeDigits 10 rest with
  | ([], _) => none
  | (digits, rest) =>
    let n := ofDigits 10 digits
    some (if negative then -(n : Int) else n, rest)

/-- The digits after a decimal point, if a point follows. -/
def takeFraction (base : Nat) : List Char → List Nat × List Char
  | '.' :: rest => takeDigits base rest
  | rest => ([], rest)

/-- The magnitude that a whole text denotes in decimal notation, as digits and an exponent. -/
def readDecimal? (cs : List Char) : Option (Nat × Int) :=
  let (whole, rest) := takeDigits 10 cs
  let (fraction, rest) := takeFraction 10 rest
  if whole.isEmpty && fraction.isEmpty then none
  else
    let digits := ofDigits 10 (whole ++ fraction)
    let scale : Int := -fraction.length
    match rest with
    | [] => some (digits, scale)
    | c :: rest =>
      if c == 'e' || c == 'E' then
        match takeExponent? rest with
        | some (exponent, []) => some (digits, scale + exponent)
        | _ => none
      else none

/-- The floating-point number that a text denotes, if the whole text denotes one: blanks around, a
sign, and a decimal number, an infinity or not-a-number in letters of either case. -/
def readFloating? (text : List Char) : Option Binary64 :=
  let trimmed := dropAsciiBlank (dropAsciiBlank (plainDigits text)).reverse
  let (negative, unsigned) := takeSign trimmed.reverse
  let name := String.ofList (unsigned.map Char.toLower)
  if name == "inf" || name == "infinity" then some (.infinite negative)
  else if name == "nan" then some .nan
  else (readDecimal? unsigned).map fun (digits, exponent) => .ofDecimal negative digits exponent

/-! ### Hexadecimal floating-point numbers -/

/-- Why a text is no hexadecimal floating-point number. -/
inductive HexadecimalFault where
  /-- The text does not have the form of one. -/
  | malformed
  /-- Its value rounds beyond the largest finite number. -/
  | tooLarge
  deriving DecidableEq, Repr

/-- Takes the digits of a base off the front, without separators. -/
def spanDigits (base : Nat) (cs : List Char) : List Nat × List Char :=
  let run := cs.takeWhile fun c => (digitInBase? base c).isSome
  (run.filterMap (digitInBase? base), cs.drop run.length)

/-- Takes the binary exponent off the front, if its letter follows; zero otherwise. -/
def takeBinaryExponent? : List Char → Option (Int × List Char)
  | [] => some (0, [])
  | c :: rest =>
    if c == 'p' || c == 'P' then
      let (negative, unsigned) := takeSign rest
      match spanDigits 10 unsigned with
      | ([], _) => none
      | (digits, rest) =>
        let n := ofDigits 10 digits
        some (if negative then -(n : Int) else n, rest)
    else some (0, c :: rest)

/-- The number that a text denotes in hexadecimal notation, after the marker `0x`.  A value that
is too large is reported before anything that follows the number is looked at. -/
def readHexadecimal (cs : List Char) : Except HexadecimalFault Binary64 :=
  let (whole, rest) := spanDigits 16 cs
  let (fraction, rest) := match rest with
    | '.' :: rest => spanDigits 16 rest
    | rest => ([], rest)
  if whole.isEmpty && fraction.isEmpty then .error .malformed
  else match takeBinaryExponent? rest with
    | none => .error .malformed
    | some (exponent, rest) =>
      let digits := ofDigits 16 (whole ++ fraction)
      match Binary64.ofBinary? false digits (exponent - 4 * fraction.length) with
      | none => .error .tooLarge
      | some x => if allAsciiBlank rest then .ok x else .error .malformed

end TeachingTree

/-
**How characters are written between quotes.**

Between the quotes of a literal a character may be written as itself, as a backslash with a letter
or a mark, or as a backslash with a number in octal or hexadecimal digits.  An escape takes as many
digits as it can: an octal one at most three, a hexadecimal one after an `x` any number of them.  So
what follows an escape must not begin with a digit that the escape would take.

Main definitions:

* `numeral` — the number that digits denote;
* `isPlain` — the characters that stand for themselves;
* `Piece` — a way to write one character, `Piece.text`, what is written, and `Piece.char`, the
  character;
* `Piece.isValid`, `Piece.mayPrecede` — whether the character can be written so, and what may
  follow;
* `isSpelling` — whether pieces may be written one after the other;
* `quoted`, `rawQuoted` — the tokens of literals, which begin with one of `encodingNames`.
-/

set_option relaxedAutoImplicit false
set_option autoImplicit false

namespace TeachingTree.Literal

/-! ### Digits -/

/-- The digits of bases up to sixteen in order. -/
def digitLetters : List Char := "0123456789abcdef".toList

/-- The number that digits denote in a base, the most significant first. -/
def numeral (base : Nat) (digits : List Char) : Nat :=
  digits.foldl (fun n d => n * base + digitLetters.idxOf d.toLower) 0

/-- Whether a character is a digit in base eight. -/
def isOctalDigit (c : Char) : Bool := "01234567".toList.contains c

/-- Whether a character is a digit in base sixteen, in either case. -/
def isHexDigit (c : Char) : Bool := "0123456789abcdefABCDEF".toList.contains c

/-- Whether a character stands for itself between quotes. -/
def isPlain (quote c : Char) : Bool := !([quote, '\\', '\n', '\r', '\x00'].contains c)

/-! ### Pieces -/

/-- A way to write one character between quotes. -/
inductive Piece where
  /-- The character itself. -/
  | plain (c : Char)
  /-- A backslash and one character more. -/
  | simple (letter : Char)
  /-- A backslash and octal digits. -/
  | octal (digits : List Char)
  /-- A backslash, the letter `u` and four hexadecimal digits, or the letter `U` and eight. -/
  | universal (isLong : Bool) (digits : List Char)
  /-- A backslash, the letter `x` and hexadecimal digits. -/
  | hexadecimal (digits : List Char)
  deriving DecidableEq, Repr

/-- The characters that stand for others after a backslash. -/
def simpleLetters : List (Char × Char) :=
  [('\'', '\''), ('"', '"'), ('?', '?'), ('\\', '\\'), ('a', '\x07'), ('b', '\x08'), ('f', '\x0c'),
    ('n', '\n'), ('r', '\r'), ('t', '\t'), ('v', '\x0b')]

namespace Piece

/-- What is written. -/
def text : Piece → List Char
  | plain c => [c]
  | simple letter => ['\\', letter]
  | octal digits => '\\' :: digits
  | universal isLong digits => '\\' :: (if isLong then 'U' else 'u') :: digits
  | hexadecimal digits => '\\' :: 'x' :: digits

/-- The character that is meant. -/
def char : Piece → Char
  | plain c => c
  | simple letter => (simpleLetters.lookup letter).getD letter
  | octal digits => Char.ofNat (numeral 8 digits)
  | universal _ digits => Char.ofNat (numeral 16 digits)
  | hexadecimal digits => Char.ofNat (numeral 16 digits)

/-- Whether a character can be written so between the given quotes.  Octal and hexadecimal numbers
are at most those of a single byte. -/
def isValid (quote : Char) : Piece → Bool
  | plain c => isPlain quote c
  | simple letter => (simpleLetters.lookup letter).isSome
  | octal digits =>
    1 ≤ digits.length && digits.length ≤ 3 && digits.all isOctalDigit && numeral 8 digits ≤ 0xff
  | universal isLong digits =>
    digits.length == (if isLong then 8 else 4) && digits.all isHexDigit &&
      decide (numeral 16 digits).isValidChar
  | hexadecimal digits =>
    1 ≤ digits.length && digits.all isHexDigit && numeral 16 digits ≤ 0xff

/-- Whether a text may follow: an escape does not take digits of it. -/
def mayPrecede (rest : List Char) : Piece → Bool
  | octal digits => digits.length == 3 || !rest.head?.any isOctalDigit
  | hexadecimal _ => !rest.head?.any isHexDigit
  | _ => true

/-- Whether the piece is an escape with hexadecimal digits after an `x`. -/
def isHexadecimal : Piece → Bool
  | hexadecimal _ => true
  | _ => false

end Piece

/-- What pieces are written as. -/
def textOf (pieces : List Piece) : List Char := pieces.flatMap Piece.text

/-- Whether pieces may be written one after the other between the given quotes. -/
def isSpelling (quote : Char) : List Piece → Bool
  | [] => true
  | piece :: pieces =>
    piece.isValid quote && piece.mayPrecede (textOf pieces) && isSpelling quote pieces

@[simp] theorem textOf_nil : textOf [] = [] := rfl

@[simp] theorem textOf_cons (piece : Piece) (pieces : List Piece) :
    textOf (piece :: pieces) = piece.text ++ textOf pieces := rfl

/-! ### Tokens -/

/-- The encodings of literals, the first of which is not written. -/
def encodingNames : List String := ["", "u8", "u", "U", "L"]

/-- The token of a literal with the given encoding, quote and body. -/
def quoted (encoding : String) (quote : Char) (body : List Char) : String :=
  String.ofList (encoding.toList ++ quote :: (body ++ [quote]))

/-- The token of a raw literal with the given encoding and delimiter. -/
def rawQuoted (encoding : String) (delimiter body : List Char) : String :=
  String.ofList (encoding.toList ++
    'R' :: '"' :: (delimiter ++ '(' :: (body ++ ')' :: (delimiter ++ ['"']))))

end TeachingTree.Literal

/-
The quoted form of a text in messages.

A text is shown between single quotes, or between double quotes when it holds a single quote and no
double quote.  The delimiter and the backslash are escaped; characters without a visible form are
written by code point; all others stand for themselves.

Main definitions:

* `hexDigits` — a number as hexadecimal digits of a least width;
* `delimiter` — the quote that surrounds a text;
* `quoted` — the quoted form.
-/

import TeachingTree.Text.Printable

set_option relaxedAutoImplicit false
set_option autoImplicit false

namespace TeachingTree.Text

/-- A number in hexadecimal, with zeros in front up to the given width. -/
def hexDigits (width n : Nat) : List Char :=
  let digits := Nat.toDigits 16 n
  List.replicate (width - digits.length) '0' ++ digits

/-- The quote that surrounds a text. -/
def delimiter (cs : List Char) : Char :=
  if cs.contains '\'' && !cs.contains '"' then '"' else '\''

/-- One character between quotes. -/
def quotedChar (delimiter c : Char) : List Char :=
  if c == delimiter || c == '\\' then ['\\', c]
  else if c == '\n' then ['\\', 'n']
  else if c == '\r' then ['\\', 'r']
  else if c == '\t' then ['\\', 't']
  else if isPrintable c then [c]
  else if c.toNat < 0x100 then '\\' :: 'x' :: hexDigits 2 c.toNat
  else if c.toNat < 0x10000 then '\\' :: 'u' :: hexDigits 4 c.toNat
  else '\\' :: 'U' :: hexDigits 8 c.toNat

/-- The quoted form of a text. -/
def quoted (text : String) : String :=
  let cs := text.toList
  let d := delimiter cs
  String.ofList (d :: cs.flatMap (quotedChar d) ++ [d])

end TeachingTree.Text

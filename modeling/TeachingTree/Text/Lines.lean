/-
The lines of a text.

Lines end at line feeds, carriage returns, the two together, and the other characters that separate
lines or paragraphs.  A text that ends with the end of a line has no further line after it.

Main definitions:

* `Text.isLineEnd` — the characters that end a line;
* `Text.lines` — the lines of a text, without their ends.
-/

set_option relaxedAutoImplicit false
set_option autoImplicit false

namespace TeachingTree.Text

/-- The characters that end a line. -/
def lineEnds : List Char :=
  ['\n', '\x0b', '\x0c', '\r', '\x1c', '\x1d', '\x1e', '\u0085', '\u2028', '\u2029']

/-- Whether a character ends a line. -/
def isLineEnd (c : Char) : Bool := lineEnds.contains c

/-- Splits characters into lines: `line` is the line read so far, in reverse. -/
def linesFrom (line : List Char) : List Char → List (List Char)
  | [] => if line.isEmpty then [] else [line.reverse]
  | '\r' :: '\n' :: rest => line.reverse :: linesFrom [] rest
  | c :: rest =>
    if isLineEnd c then line.reverse :: linesFrom [] rest else linesFrom (c :: line) rest

/-- The lines of a text, without their ends. -/
def lines (text : String) : List String := (linesFrom [] text.toList).map String.ofList

end TeachingTree.Text

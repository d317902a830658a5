/-
Places in a source file.

A position is a line and a column.  Positions that are not known have line `-1`; they add nothing
to a message.

Lines and columns are numbers of 32 bits, as parsers of source files count them.  The type does not
say so, because nothing but messages depends on it: the texts of such numbers are short, so that no
message fails for want of digits.
-/

set_option relaxedAutoImplicit false
set_option autoImplicit false

namespace TeachingTree

/-- A line and a column of a source file. -/
structure Position where
  /-- The line, counted from one; negative when it is not known. -/
  line : Int := -1
  /-- The column, counted from one. -/
  column : Int := -1
  deriving DecidableEq, Repr, Inhabited

namespace Position

/-- The position that is not known. -/
def unknown : Position := {}

/-- A position is known when its line is not negative. -/
def isKnown (p : Position) : Bool := 0 ≤ p.line

/-- The line and the column in words; both are taken to be short enough to be written. -/
def inWords (p : Position) : String :=
  "line " ++ toString p.line ++ ", column " ++ toString p.column

/-- How an error message ends: the position in brackets, or nothing. -/
def errorSuffix : Option Position → String
  | some p => if p.isKnown then " (" ++ p.inWords ++ ")" else ""
  | none => ""

/-- How a log line names a position, or nothing. -/
def logSuffix (p : Position) : String :=
  if p.isKnown then " at " ++ p.inWords else ""

end Position

end TeachingTree

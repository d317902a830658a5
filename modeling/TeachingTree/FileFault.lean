/-
Why a file cannot be opened.

Main definitions:

* `FileFault` — the reasons, each with the name by which the file was asked for;
* `FileFault.message` — the text of a reason.
-/

import TeachingTree.Text.Quoted

set_option relaxedAutoImplicit false
set_option autoImplicit false

namespace TeachingTree

/-- Why a file cannot be opened. -/
inductive FileFault where
  /-- There is no file of this name. -/
  | missing (name : String)
  /-- The name leads through a file that is no directory. -/
  | notDirectory (name : String)
  /-- The name is that of a directory. -/
  | directory (name : String)
  /-- The name or one of its parts is too long. -/
  | tooLong (name : String)
  /-- The name holds the null character. -/
  | nullByte
  deriving DecidableEq, Repr

namespace FileFault

/-- The text of a numbered reason. -/
def describe (number : Nat) (reason name : String) : String :=
  "[Errno " ++ toString number ++ "] " ++ reason ++ ": " ++ Text.quoted name

/-- The text of a fault. -/
def message : FileFault → String
  | .missing name => describe 2 "No such file or directory" name
  | .notDirectory name => describe 20 "Not a directory" name
  | .directory name => describe 21 "Is a directory" name
  | .tooLong name => describe 36 "File name too long" name
  | .nullByte => "embedded null byte"

end FileFault

end TeachingTree

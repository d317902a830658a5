/-
The settings of a run.

Main definitions:

* `Settings` — what a settings file may set, with the values that hold without one;
* `Settings.parserFlags` — the flags that the parser gets: the language, its standard, the flags of
  the settings, and those of the environment.
-/

import TeachingTree.Text.ShellWords

set_option relaxedAutoImplicit false
set_option autoImplicit false

namespace TeachingTree

/-- The settings of a run. -/
structure Settings where
  /-- Flags for the parser. -/
  flags : List String := []
  /-- The standard of the language. -/
  standard : String := "c++11"
  /-- The number of spaces by which each level of a document is indented. -/
  indent : Int := 4
  /-- Whether declarations of other files are left out. -/
  mainFileOnly : Bool := true
  deriving DecidableEq, Repr, Inhabited

namespace Settings

/-- The flags of an environment variable, if it is set. -/
def environmentFlags : Option String → Except ShellError (List String)
  | none => .ok []
  | some text => if text.isEmpty then .ok [] else shellWords text

/-- The flags that the parser gets. -/
def parserFlags (settings : Settings) (environment : Option String) :
    Except ShellError (List String) :=
  (environmentFlags environment).map fun extra =>
    ["-x", "c++", "-std=" ++ settings.standard] ++ settings.flags ++ extra

end Settings

end TeachingTree

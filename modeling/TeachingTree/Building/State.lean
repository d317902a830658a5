/-
The state in which source trees are built.

Building a tree logs lines, and one warning only once.  It stops at some literals without a value.

Main definitions:

* `Building.Context` — what holds for a whole program: its main file, which declarations count, its
  macros, and the names of characters;
* `Building.State` — the log, and whether the warning was given;
* `Build` — actions that change the state and may stop.
-/

import TeachingTree.Cursor.Macro
import TeachingTree.Literal.Number
import TeachingTree.Path
import TeachingTree.Text.CharacterName

set_option relaxedAutoImplicit false
set_option autoImplicit false

namespace TeachingTree

namespace Building

/-- What holds for a whole program. -/
structure Context where
  /-- The name of its main file. -/
  mainFile : String
  /-- Whether the declarations of other files are left out. -/
  mainFileOnly : Bool := true
  /-- Its macros. -/
  macros : MacroTable := []
  /-- The names by which its literals may give characters. -/
  names : Text.CharacterNames := .empty

/-- Whether a place is in the main file. -/
def Context.isMain (context : Context) (place : Option Place) : Bool :=
  match place.bind Place.file with
  | some file => samePath file context.mainFile
  | none => false

/-- Whether what is declared at a place counts. -/
def Context.counts (context : Context) (place : Option Place) : Bool :=
  !context.mainFileOnly || context.isMain place

/-- The state in which a source tree is built. -/
structure State where
  /-- Whether the warning about missing template arguments was given. -/
  warned : Bool := false
  /-- The lines logged so far. -/
  log : List String := []
  deriving DecidableEq, Repr, Inhabited

end Building

/-- Actions that build a source tree. -/
abbrev Build := ExceptT LiteralError (StateM Building.State)

namespace Build

/-- Stops. -/
def stop {α : Type} (e : LiteralError) : Build α := fun s => (.error e, s)

/-- Logs a line unless the warning was given before. -/
def warnOnce (line : String) : Build Unit := fun s =>
  (.ok (), if s.warned then s else ⟨true, s.log ++ [line]⟩)

/-- Runs actions in order. -/
def inOrder {α : Type} : List (Build α) → Build (List α)
  | [] => pure []
  | action :: actions => do
    let result ← action
    let results ← inOrder actions
    return result :: results

end Build

end TeachingTree

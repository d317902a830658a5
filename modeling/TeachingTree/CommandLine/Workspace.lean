/-
What a run of the program finds around it.

Settings files and source files for the parser are found under every name that leads to them.  A
source file whose declarations are known without the parser is found under its own name only, and
is not there as a file.

Main definitions:

* `Workspace` — the parser, the system, the environment and the files;
* `Workspace.tree` — the files and directories that are there;
* `Workspace.settingsFile`, `Workspace.sourceFile` — what is found under a name.
-/

import TeachingTree.FileTree
import TeachingTree.Settings.Reading
import TeachingTree.SourceFile

set_option relaxedAutoImplicit false
set_option autoImplicit false

namespace TeachingTree.CommandLine

/-- What a run finds around it. -/
structure Workspace where
  /-- The parser of source files. -/
  parser : Parser := {}
  /-- The names by which literals may give characters. -/
  names : Text.CharacterNames := .empty
  /-- How many spaces fit in memory. -/
  room : Nat
  /-- Whether settings files can be read. -/
  readsSettings : Bool := true
  /-- The flags of the environment. -/
  environment : Option String := none
  /-- The settings files. -/
  settingsFiles : List (String × SettingsFile) := []
  /-- The source files. -/
  sourceFiles : List (String × SourceFile) := []
  /-- The directories. -/
  directories : List String := []

/-- Whether a file is there for the parser. -/
def isParsed : SourceFile → Bool
  | .parsed _ => true
  | _ => false

/-! ### The tree of files -/

/-- The directories that every system has at its root. -/
def systemDirectories : List String :=
  ["/bin", "/boot", "/dev", "/etc", "/home", "/lib", "/media", "/mnt", "/opt", "/proc", "/root",
    "/run", "/sbin", "/srv", "/sys", "/tmp", "/usr", "/var"]

/-- The file that every system has, which is always empty. -/
def nullDevice : String := "/dev/null"

namespace Workspace

/-- The files and directories that are there. -/
def tree (workspace : Workspace) : FileTree :=
  let places (kind : FileKind) (names : List String) : List (Path × FileKind) :=
    names.map fun name => (.place name, kind)
  let parsed := workspace.sourceFiles.filter fun (_, file) => isParsed file
  ⟨places .file (workspace.settingsFiles.map Prod.fst) ++ places .file (parsed.map Prod.fst) ++
    places .directory workspace.directories ++ places .file [nullDevice] ++
    places .directory systemDirectories⟩

/-! ### Files -/

/-- What is found under the name of a settings file.  A file that holds no settings is as good as an
empty one. -/
def settingsFile (workspace : Workspace) (name : String) : Except FileFault SettingsFile :=
  (workspace.tree.readPlace name).map fun place =>
    match workspace.settingsFiles.find? fun (other, _) => Path.place other = place with
    | some (_, file) => file
    | none => .holding .null

/-- What is found under the name of a source file: what is known under this very name, or a file for
the parser under a name with the same normal form. -/
def sourceFile (workspace : Workspace) (name : String) : SourceFile :=
  match workspace.sourceFiles.lookup name with
  | some file => file
  | none =>
    match workspace.sourceFiles.find? fun (other, file) => isParsed file && samePath other name with
    | some (_, file) => file
    | none => .missing

end Workspace

end TeachingTree.CommandLine

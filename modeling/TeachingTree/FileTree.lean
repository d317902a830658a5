/-
The files and directories that are there.

A tree lists files and directories by their places.  What lies above a listed place is a directory
too, and so are the working directory and all that lies above it.  A name is followed part by part
from the working directory or the root, and every part but the last must lead to a directory.

Main definitions:

* `FileTree` — the files and directories, and `FileTree.kind?` — what is at a place;
* `FileTree.follow` — the place to which parts of a name lead;
* `FileTree.readPlace` — the place of the file that is read under a name;
* `FileTree.writePlace` — the place of the file that is written under a name.
-/

import TeachingTree.FileFault
import TeachingTree.Path

set_option relaxedAutoImplicit false
set_option autoImplicit false

namespace TeachingTree

/-- What may be at a place. -/
inductive FileKind where
  /-- A file. -/
  | file
  /-- A directory. -/
  | directory
  deriving DecidableEq, Repr

/-- The files and directories that are listed by their places.  Of two entries for one place the
first holds. -/
structure FileTree where
  /-- The entries. -/
  entries : List (Path × FileKind) := []
  deriving Repr

namespace FileTree

/-! ### Places -/

/-- What is at a place. -/
def kind? (tree : FileTree) (place : Path) : Option FileKind :=
  if place.isBase then some .directory
  else match tree.entries.lookup place with
    | some kind => some kind
    | none =>
      if tree.entries.any fun (other, _) => place.isAbove other then some .directory else none

/-- Whether there is a directory at a place. -/
def isDirectory (tree : FileTree) (place : Path) : Bool := tree.kind? place = some .directory

/-- Whether there is a file at a place. -/
def isFile (tree : FileTree) (place : Path) : Bool := tree.kind? place = some .file

/-! ### Names -/

/-- The most bytes in a part of a name. -/
def maxPart : Nat := 255

/-- The most bytes in a name. -/
def maxName : Nat := 4095

/-- The parts of a name that may be the name of a file. -/
def partsOf (name : String) : Except FileFault (List (List Char)) :=
  let cs := name.toList
  if cs.contains '\x00' then .error .nullByte
  else if maxName < name.utf8ByteSize then .error (.tooLong name)
  else if cs = [] then .error (.missing name)
  else .ok (Path.partsFrom [] cs)

/-- Whether a part of a name is too long. -/
def isLong (part : List Char) : Bool := maxPart < (String.ofList part).utf8ByteSize

/-- The place to which a part of a name leads from a directory. -/
def find (tree : FileTree) (name : String) (place : Path) (part : List Char) :
    Except FileFault Path :=
  if isLong part then .error (.tooLong name)
  else if (tree.kind? (place.enter part)).isSome then .ok (place.enter part)
  else .error (.missing name)

/-- The directory to which parts of a name lead from a directory. -/
def follow (tree : FileTree) (name : String) (place : Path) :
    List (List Char) → Except FileFault Path
  | [] => .ok place
  | part :: parts => do
    let next ← tree.find name place part
    if tree.isDirectory next then tree.follow name next parts else .error (.notDirectory name)

/-! ### Files -/

/-- The place of the file that is read under a name. -/
def readPlace (tree : FileTree) (name : String) : Except FileFault Path := do
  let parts ← partsOf name
  let directory ← tree.follow name (.base name) parts.dropLast
  let place ← tree.find name directory (parts.getLastD [])
  if tree.isDirectory place then .error (.directory name) else .ok place

/-- The place of the file that is written under a name.  A file that is not there is made, but a
name that ends in a slash or in a part of dots alone is that of a directory. -/
def writePlace (tree : FileTree) (name : String) : Except FileFault Path := do
  let parts ← partsOf name
  let kept := (parts.reverse.dropWhile (· == [])).reverse
  let last := kept.getLastD []
  let directory ← tree.follow name (.base name) kept.dropLast
  if Path.isStep last || kept.length < parts.length then .error (.directory name)
  else if isLong last then .error (.tooLong name)
  else if tree.isDirectory (directory.enter last) then .error (.directory name)
  else .ok (directory.enter last)

end FileTree

end TeachingTree

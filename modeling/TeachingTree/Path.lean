/-
Names of files.

Two names with the same normal form name the same file.  The normal form is without empty parts and
single dots, and a double dot takes the part before it away if there is one.

Main definitions:

* `Path` — a name of a file taken apart, `Path.ofName` and `Path.name`;
* `Path.base`, `Path.enter` — where a name starts, and the step into a part of it;
* `Path.isAbove` — whether one path leads to a directory of the other;
* `samePath` — whether two names have the same normal form.
-/

set_option relaxedAutoImplicit false
set_option autoImplicit false

namespace TeachingTree

/-- The normal form of the name of a file. -/
structure Path where
  /-- The slashes at the root: none for a relative name, two if there are exactly two in front. -/
  slashes : Nat
  /-- The parts from the last to the first. -/
  reversed : List (List Char)
  deriving DecidableEq, Repr

namespace Path

/-- The number of slashes that are kept at the root. -/
def rootSlashes (cs : List Char) : Nat :=
  match (cs.takeWhile (· == '/')).length with
  | 0 => 0
  | 2 => 2
  | _ => 1

/-- Splits characters at slashes: `part` is the part read so far, in reverse. -/
def partsFrom (part : List Char) : List Char → List (List Char)
  | [] => [part.reverse]
  | c :: rest => if c == '/' then part.reverse :: partsFrom [] rest else partsFrom (c :: part) rest

/-- Whether a part of a name leads to no file of its own. -/
def isStep (part : List Char) : Bool := part == [] || part == ['.'] || part == ['.', '.']

/-- Goes into a part of a name.  A double dot goes back, which at the root leads nowhere. -/
def enter (path : Path) (part : List Char) : Path :=
  if part = [] ∨ part = ['.'] then path
  else if part = ['.', '.'] then
    match path.reversed with
    | last :: before =>
      if last = ['.', '.'] then { path with reversed := part :: path.reversed }
      else { path with reversed := before }
    | [] => if path.slashes = 0 then { path with reversed := [part] } else path
  else { path with reversed := part :: path.reversed }

/-- The normal form of a name. -/
def ofName (name : String) : Path :=
  let cs := name.toList
  (partsFrom [] cs).foldl enter ⟨rootSlashes cs, []⟩

/-- Where a name starts: the root or the working directory. -/
def base (name : String) : Path := ⟨min 1 (rootSlashes name.toList), []⟩

/-- The place of a name in a tree that has one root. -/
def place (name : String) : Path :=
  (partsFrom [] name.toList).foldl enter (base name)

/-- Whether a path is the root, the working directory or a directory above that. -/
def isBase (path : Path) : Bool := path.reversed.all (· == ['.', '.'])

/-- Whether a path leads to a directory that the other path leads through. -/
def isAbove (path other : Path) : Bool :=
  path.slashes == other.slashes && path.reversed.length < other.reversed.length &&
    path.reversed.isSuffixOf other.reversed

/-- Whether a path leads straight from the working directory to a file in it. -/
def isLocal (path : Path) : Bool := path.slashes == 0 && path.reversed.length == 1

/-- The name in normal form. -/
def name (path : Path) : String :=
  let parts := path.reversed.reverse.map String.ofList
  String.ofList (List.replicate path.slashes '/') ++ "/".intercalate parts

end Path

/-- Whether two names have the same normal form. -/
def samePath (a b : String) : Bool := Path.ofName a = Path.ofName b

@[simp] theorem samePath_self (a : String) : samePath a a = true := by simp [samePath]

end TeachingTree

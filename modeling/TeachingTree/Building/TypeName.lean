/-
Source types from cursor types.

A type is described by its canonical form.  References are looked through.  A record is a stream, a
vector, a string, a record of the program, or unknown.  The elements of a vector are its first
template argument; where the parser exposes none, they are read from the spelling.

Main definitions:

* `recordName` — the name of a record, empty for anonymous ones;
* `sourceType` — the source type of a type.
-/

import TeachingTree.Building.State
import TeachingTree.Source.Signature
import TeachingTree.Text.Search

set_option relaxedAutoImplicit false
set_option autoImplicit false

namespace TeachingTree.Building

open Text

/-! ### Spellings -/

/-- The templates of stream types. -/
def streamTemplates : List String := ["basic_istream", "basic_ostream", "basic_iostream"]

/-- Whether a text starts with an instance of a stream template. -/
def startsStream (cs : List Char) : Bool :=
  streamTemplates.any fun name => match after? name cs with
    | some rest => (dropBlank rest).head? == some '<'
    | none => false

/-- Whether the spelling of a type names an instance of a stream template. -/
def namesStream (spelling : String) : Bool := anySuffix startsStream spelling.toList

/-- Whether a text starts as the made-up names of anonymous records do. -/
def startsAnonymous (cs : List Char) : Bool :=
  ["(unnamed", "(anonymous"].any fun name => match after? name cs with
    | some (c :: _) => !isWordChar c
    | some [] => true
    | none => false

/-- The name of a record, empty for anonymous ones. -/
def recordName (declaration : Declaration) : String :=
  if declaration.isAnonymous || anySuffix startsAnonymous declaration.spelling.toList then ""
  else declaration.spelling

/-! ### Types -/

/-- What is logged when the elements of a container are read from its spelling. -/
def missingArgumentsMessage (spelling : String) : String :=
  "libclang exposed no template arguments for '" ++ spelling ++
    "'; reading the element type from its spelling."

/-- The type where there is none. -/
def invalidType : SourceType := .plain { kind := .unknown, typeClass := "Invalid" }

/-- The source type of a record, given the one of its first template argument. -/
def recordType (context : Context) (head : TypeHead) (isConst : Bool)
    (element : Option (Build SourceType)) : Build SourceType :=
  let spelling := head.spelling
  if namesStream spelling then return .plain { kind := .stream, spelling, isConst }
  else if 0 < (Signature.splitContainer spelling.toList).1 then
    match element with
    | some element => do return .containing { kind := .vector, spelling, isConst } (← element)
    | none => do
      Build.warnOnce (missingArgumentsMessage spelling)
      return (SourceType.ofSignature spelling).withConst isConst
  else if Signature.namesString spelling.toList then
    return .plain { kind := .string, spelling, isConst }
  else
    let unknown : SourceType :=
      .plain { kind := .unknown, spelling, typeClass := "Record", isConst }
    match head.declaration with
    | some declaration =>
      if declaration.kind.isRecord && context.counts declaration.location then
        let name := recordName declaration
        return .plain { kind := .record, spelling, recordName := some name, isConst }
      else return unknown
    | none => return unknown

/-- The source type of a canonical type, given the ones of the type it refers to and of its first
template argument. -/
def canonicalType (context : Context) (head : TypeHead) (isConst : Bool)
    (pointee : Build SourceType) (element : Option (Build SourceType)) : Build SourceType :=
  let spelling := head.spelling
  match head.sort with
  | .bool => return .plain { kind := .bool, spelling, isConst }
  | .character => return .plain { kind := .character, spelling, isConst }
  | .integer => return .plain { kind := .integer, spelling, isConst }
  | .floating => return .plain { kind := .floating, spelling, isConst }
  | .void => return .plain { kind := .void, spelling, isConst }
  | .reference => pointee
  | .record => recordType context head isConst element
  | _ => return .plain { kind := .unknown, spelling, typeClass := head.kindSpelling, isConst }

mutual

/-- The source type of a type. -/
def sourceType (context : Context) : CursorType → Build SourceType
  | .mk head none pointee arguments =>
    canonicalType context head head.isConst (pointedType context pointee)
      (firstArgument context arguments)
  | .mk outer (some (.mk head _ pointee arguments)) _ _ =>
    canonicalType context head (outer.isConst || head.isConst) (pointedType context pointee)
      (firstArgument context arguments)

/-- The source type of the type that a type refers to. -/
def pointedType (context : Context) : Option CursorType → Build SourceType
  | none => return invalidType
  | some type => sourceType context type

/-- The source type of the first template argument, if it is a type. -/
def firstArgument (context : Context) : List CursorType → Option (Build SourceType)
  | [] => none
  | type :: _ => if type.head.sort = .invalid then none else some (sourceType context type)

end

/-- The source type of the type of a name: the functions on streams are manipulators. -/
def nameType (context : Context) (type : CursorType) : Build SourceType :=
  let canonical := type.canonical.head
  if canonical.sort = .function ∧ namesStream canonical.spelling then
    return .plain { kind := .streamManipulator, spelling := canonical.spelling }
  else sourceType context type

end TeachingTree.Building

/-
Resolved types of a source program.

A type has a kind, the spelling it was written with, and, for a container, the type of its elements.

Main definitions:

* `TypeKind` — what sort of type it is; `TypeKind.name` and `TypeKind.ofName` give its name;
* `SourceType` — a type, with its element type when it has one;
* `SourceType.vectorDepth`, `SourceType.vectorElement?` — the leading run of vectors of a type and
  the type inside that run.
-/

set_option relaxedAutoImplicit false
set_option autoImplicit false

namespace TeachingTree

/-- What sort of type it is. -/
inductive TypeKind where
  /-- Truth values. -/
  | bool
  /-- Integers of any width, enumerations among them. -/
  | integer
  /-- Characters of any width. -/
  | character
  /-- Floating-point numbers of any width. -/
  | floating
  /-- No value. -/
  | void
  /-- The library's string. -/
  | string
  /-- A structure or class of the program. -/
  | record
  /-- The library's vector. -/
  | vector
  /-- An input or output stream. -/
  | stream
  /-- A function that is applied to a stream by its operator. -/
  | streamManipulator
  /-- Any other type. -/
  | unknown
  /-- A kind outside this list, under its own name. -/
  | other (name : String)
  deriving DecidableEq, Repr, Inhabited

namespace TypeKind

/-- The name of a kind. -/
def name : TypeKind → String
  | .bool => "bool"
  | .integer => "integer"
  | .character => "char"
  | .floating => "floating"
  | .void => "void"
  | .string => "string"
  | .record => "record"
  | .vector => "vector"
  | .stream => "stream"
  | .streamManipulator => "stream-manipulator"
  | .unknown => "unknown"
  | .other name => name

/-- The kinds that have a name of their own. -/
def named : List TypeKind :=
  [.bool, .integer, .character, .floating, .void, .string, .record, .vector, .stream,
    .streamManipulator, .unknown]

/-- The kind of a name. -/
def ofName (name : String) : TypeKind :=
  (named.find? fun kind => kind.name == name).getD (.other name)

end TypeKind

/-- What is known of a type apart from its element type. -/
structure TypeShape where
  /-- The sort of type. -/
  kind : TypeKind
  /-- The type as written. -/
  spelling : String := ""
  /-- The class of a type that has no kind of its own. -/
  typeClass : String := ""
  /-- The name of a record; empty for an anonymous one. -/
  recordName : Option String := none
  /-- Whether values of the type are constant. -/
  isConst : Bool := false
  deriving DecidableEq, Repr, Inhabited

/-- A resolved type. -/
inductive SourceType where
  /-- A type without an element type. -/
  | plain (shape : TypeShape)
  /-- A container and the type of its elements. -/
  | containing (shape : TypeShape) (element : SourceType)
  deriving DecidableEq, Repr, Inhabited

namespace SourceType

/-- What is known of the type itself. -/
def shape : SourceType → TypeShape
  | .plain shape => shape
  | .containing shape _ => shape

/-- The element type, if there is one. -/
def element? : SourceType → Option SourceType
  | .plain _ => none
  | .containing _ element => some element

/-- The sort of type. -/
def kind (type : SourceType) : TypeKind := type.shape.kind

/-- The type as written. -/
def spelling (type : SourceType) : String := type.shape.spelling

/-- The type of the given shape and, possibly, element type. -/
def of (shape : TypeShape) : Option SourceType → SourceType
  | none => .plain shape
  | some element => .containing shape element

/-- The same type with values that are constant or not. -/
def withConst (isConst : Bool) : SourceType → SourceType
  | .plain shape => .plain { shape with isConst }
  | .containing shape element => .containing { shape with isConst } element

/-- The number of vectors that the type starts with. -/
def vectorDepth : SourceType → Nat
  | .plain shape => if shape.kind = .vector then 1 else 0
  | .containing shape element => if shape.kind = .vector then element.vectorDepth + 1 else 0

/-- The type inside the vectors that the type starts with, if the innermost of them has one. -/
def vectorElement? : SourceType → Option SourceType
  | .plain shape => if shape.kind = .vector then none else some (.plain shape)
  | .containing shape element =>
    if shape.kind = .vector then element.vectorElement? else some (.containing shape element)

@[simp] theorem shape_of (shape : TypeShape) (element : Option SourceType) :
    (of shape element).shape = shape := by cases element <;> rfl

@[simp] theorem element?_of (shape : TypeShape) (element : Option SourceType) :
    (of shape element).element? = element := by cases element <;> rfl

@[simp] theorem kind_withConst (isConst : Bool) (type : SourceType) :
    (type.withConst isConst).kind = type.kind := by cases type <;> rfl

end SourceType

end TeachingTree

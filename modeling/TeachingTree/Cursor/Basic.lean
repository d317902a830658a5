/-
Cursors: what the parser exposes of a program.

A cursor has a kind, a place and an extent in the source text, the tokens of that extent, a type,
and cursors below it.  The parser sorts types into classes by name and knows for each type its
canonical form.

Main definitions:

* `Place`, `Token` — a place in a file, and a token between two offsets;
* `TypeClass`, `CursorType` — the types;
* `Declaration`, `Referent` — declared entities to which types and cursors refer;
* `CursorHead`, `Cursor` — a cursor without the cursors around it, and a cursor.
-/

import TeachingTree.Cursor.Kind
import TeachingTree.Number.Binary64
import TeachingTree.Position

set_option relaxedAutoImplicit false
set_option autoImplicit false

namespace TeachingTree

/-! ### Places and tokens -/

/-- A place in a file. -/
structure Place where
  /-- The line. -/
  line : Int
  /-- The column. -/
  column : Int
  /-- The number of characters before it. -/
  offset : Int
  /-- The file, if there is one. -/
  file : Option String := none
  deriving DecidableEq, Repr

/-- The position of a place, which is known if the place is in a file. -/
def Place.position : Option Place → Position
  | some place => if place.file.isSome then ⟨place.line, place.column⟩ else .unknown
  | none => .unknown

/-- A token. -/
structure Token where
  /-- Its text. -/
  spelling : String
  /-- The offset of its first character. -/
  start : Int
  /-- The offset after its last character. -/
  stop : Int
  deriving DecidableEq, Repr

/-! ### Declared entities -/

/-- A declared entity, as far as types refer to it. -/
structure Declaration where
  /-- What it is. -/
  kind : CursorKind
  /-- Its name. -/
  spelling : String := ""
  /-- Where it is declared. -/
  location : Option Place := none
  /-- Whether it has no name of its own. -/
  isAnonymous : Bool := false
  deriving DecidableEq, Repr

/-! ### Types -/

/-- The sorts of types. -/
inductive TypeClass where
  /-- Truth values. -/
  | bool
  /-- Characters. -/
  | character
  /-- Integers and enumerations. -/
  | integer
  /-- Floating-point numbers. -/
  | floating
  /-- No value. -/
  | void
  /-- References of either sort. -/
  | reference
  /-- Structures, classes and unions. -/
  | record
  /-- Functions. -/
  | function
  /-- No type at all. -/
  | invalid
  /-- Any other type. -/
  | other
  deriving DecidableEq, Repr, Inhabited

namespace TypeClass

/-- The names of the types of characters. -/
def characterNames : List String :=
  ["CHAR_U", "UCHAR", "CHAR_S", "SCHAR", "WCHAR", "CHAR16", "CHAR32"]

/-- The names of the types of integers. -/
def integerNames : List String :=
  ["SHORT", "USHORT", "INT", "UINT", "LONG", "ULONG", "LONGLONG", "ULONGLONG", "INT128", "UINT128",
    "ENUM"]

/-- The names of the types of floating-point numbers. -/
def floatingNames : List String := ["FLOAT", "DOUBLE", "LONGDOUBLE", "FLOAT128", "HALF"]

/-- The sort of the types to which the parser gives a name. -/
def ofName (name : String) : TypeClass :=
  if name == "BOOL" then .bool
  else if characterNames.contains name then .character
  else if integerNames.contains name then .integer
  else if floatingNames.contains name then .floating
  else if name == "VOID" then .void
  else if name == "LVALUEREFERENCE" || name == "RVALUEREFERENCE" then .reference
  else if name == "RECORD" then .record
  else if name == "FUNCTIONPROTO" || name == "FUNCTIONNOPROTO" then .function
  else if name == "INVALID" then .invalid
  else .other

end TypeClass

/-- What is known of a type apart from other types. -/
structure TypeHead where
  /-- Its sort. -/
  sort : TypeClass
  /-- How the parser names its kind in words. -/
  kindSpelling : String := ""
  /-- The type as written. -/
  spelling : String := ""
  /-- Whether its values are constant. -/
  isConst : Bool := false
  /-- The entity that declares it. -/
  declaration : Option Declaration := none
  deriving DecidableEq, Repr

/-- A type as the parser exposes it.  A type without a canonical form is its own. -/
inductive CursorType where
  /-- A type with its canonical form, the type it points or refers to, and its template
  arguments. -/
  | mk (head : TypeHead) (canonicalForm pointee : Option CursorType) (arguments : List CursorType)

namespace CursorType

/-- What is known of a type apart from other types. -/
def head : CursorType → TypeHead
  | .mk head _ _ _ => head

/-- The canonical form of a type. -/
def canonical : CursorType → CursorType
  | .mk _ (some canonical) _ _ => canonical
  | .mk head none pointee arguments => .mk head none pointee arguments

/-- The type that a type points or refers to. -/
def pointee : CursorType → Option CursorType
  | .mk _ _ pointee _ => pointee

/-- No type at all. -/
def invalid : CursorType := .mk { sort := .invalid, kindSpelling := "Invalid" } none none []

instance : Inhabited CursorType := ⟨invalid⟩

/-- The type without a reference around it. -/
def withoutReference (type : CursorType) : Option CursorType :=
  if type.head.sort = .reference then type.pointee else some type

end CursorType

/-! ### Cursors -/

/-- The entity to which a cursor refers. -/
structure Referent extends Declaration where
  /-- Its type. -/
  type : CursorType := .invalid

/-- How the parser sorts the kinds of cursors. -/
inductive Category where
  /-- Declarations. -/
  | declaration
  /-- Expressions. -/
  | expression
  /-- All others. -/
  | other
  deriving DecidableEq, Repr, Inhabited

/-- The number that the parser computes for an expression. -/
inductive Evaluation where
  /-- An integer. -/
  | integer (value : Int)
  /-- A floating-point number. -/
  | floating (value : Binary64)
  deriving DecidableEq

/-- What is known of a cursor apart from the cursors around it. -/
structure CursorHead where
  /-- What it stands for. -/
  kind : CursorKind
  /-- How its kind is sorted. -/
  category : Category := .other
  /-- Its name. -/
  spelling : String := ""
  /-- Where it is. -/
  location : Option Place := none
  /-- Where its extent starts. -/
  start : Option Place := none
  /-- Where its extent ends. -/
  stop : Option Place := none
  /-- The tokens of its extent. -/
  tokens : List Token := []
  /-- The entity to which it refers. -/
  referent : Option Referent := none
  /-- Its type. -/
  type : CursorType := .invalid
  /-- The type of its results. -/
  resultType : CursorType := .invalid
  /-- Whether it defines what it declares. -/
  isDefinition : Bool := false
  /-- Whether it has no name of its own. -/
  isAnonymous : Bool := false
  /-- The number that it denotes. -/
  value : Option Evaluation := none

namespace CursorHead

/-- The position of a cursor. -/
def position (head : CursorHead) : Position := Place.position head.location

/-- The position of the first token of a cursor, or else the position of the cursor. -/
def startPosition (head : CursorHead) : Position :=
  match head.start with
  | some place => if place.file.isSome then ⟨place.line, place.column⟩ else head.position
  | none => head.position

/-- The offset at which the extent of a cursor starts. -/
def startOffset (head : CursorHead) : Int := (head.start.map Place.offset).getD 0

/-- The offset at which the extent of a cursor ends. -/
def stopOffset (head : CursorHead) : Int := (head.stop.map Place.offset).getD 0

/-- The offset of the name of a cursor. -/
def nameOffset (head : CursorHead) : Int := (head.location.map Place.offset).getD 0

/-- Whether a cursor is an expression. -/
def isExpression (head : CursorHead) : Bool := head.category = .expression

end CursorHead

/-- A cursor, the cursors below it, and its arguments, which are the parameters of a function or
the arguments of a call. -/
inductive Cursor where
  /-- The cursor of a head, children and arguments. -/
  | mk (head : CursorHead) (children arguments : List Cursor)

instance : Inhabited Cursor := ⟨.mk { kind := default } [] []⟩

namespace Cursor

/-- What is known of a cursor apart from the cursors around it. -/
def head : Cursor → CursorHead
  | .mk head _ _ => head

/-- The cursors below a cursor. -/
def children : Cursor → List Cursor
  | .mk _ children _ => children

/-- The arguments of a cursor. -/
def arguments : Cursor → List Cursor
  | .mk _ _ arguments => arguments

/-- The kind of a cursor. -/
def kind (cursor : Cursor) : CursorKind := cursor.head.kind

/-- Whether a cursor is an expression. -/
def isExpression (cursor : Cursor) : Bool := cursor.head.isExpression

/-- Whether an argument is not written but comes from the declaration: it is an unexposed
expression without children. -/
def isDefaultArgument (cursor : Cursor) : Bool :=
  cursor.kind = .unexposedExpr && cursor.children.isEmpty

end Cursor

end TeachingTree

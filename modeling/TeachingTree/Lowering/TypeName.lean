/-
Types in the words of the schema.

A type that is no vector becomes one node with the name of the type in the schema.  A vector
becomes a chain of `vector` nodes around its innermost element; inside a vector, `char` elements
count as strings and `float` elements as `double`.

Main definitions:

* `leafName` — the name of a type that is no vector;
* `elementName` — the name of the innermost element of a vector;
* `lowerType` — the nodes of a type.
-/

import TeachingTree.Lowering.State
import TeachingTree.Schema.Node
import TeachingTree.Source.Signature

set_option relaxedAutoImplicit false
set_option autoImplicit false

namespace TeachingTree.Lowering

/-! ### Names -/

/-- The schema's name for the kinds that have one. -/
def kindName? : TypeKind → Option String
  | .bool => some "bool"
  | .integer => some "int"
  | .character => some "int"
  | .floating => some "double"
  | .void => some "void"
  | .string => some "string"
  | _ => none

/-- How a type without a name in the schema is called. -/
def unknownName (typeClass fallback : String) : String :=
  "Unknown: (" ++ (if typeClass.isEmpty then fallback else typeClass) ++ ")"

/-- The name of a type that is no vector: the schema's name for its kind, the name of a record, or
its class. -/
def leafName (type : SourceType) : String :=
  match kindName? type.kind with
  | some name => name
  | none =>
    if type.kind = .record then type.shape.recordName.getD type.spelling
    else unknownName type.shape.typeClass type.kind.name

/-- The names that elements of vectors have instead of their own. -/
def elementNames : List (List Char × String) :=
  [("float".toList, "double"), ("char".toList, "string")]

/-- The name of the innermost element of a vector. -/
def elementName (type : SourceType) : String :=
  (elementNames.lookup (Signature.stripQualifiers type.spelling.toList)).getD (leafName type)

/-- The name at the end of the chain of nodes of a type. -/
def innermostName (type : SourceType) : String :=
  if type.vectorDepth = 0 then leafName type
  else match type.vectorElement? with
    | some element => elementName element
    | none => unknownName type.shape.typeClass "TemplateSpecialization"

/-! ### Nodes -/

/-- A node for the name of a type. -/
def makeType (name : String) (dataType : Schema) : Lower Schema := do
  let id ← Lower.newId
  return .type id name dataType

/-- A node inside the given number of vectors, numbered from the inside out. -/
def wrapVectors : Nat → Schema → Lower Schema
  | 0, node => pure node
  | depth + 1, node => do
    let wrapped ← makeType "vector" node
    wrapVectors depth wrapped

/-- The nodes of a type. -/
def lowerType (type : SourceType) : Lower Schema := do
  let leaf ← makeType (innermostName type) .absent
  wrapVectors type.vectorDepth leaf

end TeachingTree.Lowering

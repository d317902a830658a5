/-
The schema: the tree that a source program is lowered to.

Nodes carry a number each, and most of them the position they come from.  The places of a node
hold further nodes; a place may also be empty (`absent`), hold several nodes (`group`), or hold a
value that is no part of the schema (`foreign`).

Main definitions:

* `MessageKind` — errors and warnings;
* `Schema` — the nodes;
* `Schema.splice` — the nodes that a result contributes to a list.
-/

import TeachingTree.Constant
import TeachingTree.Position

set_option relaxedAutoImplicit false
set_option autoImplicit false

namespace TeachingTree

/-- A node of the schema, or what else may stand in the place of one. -/
inductive Schema where
  /-- Nothing. -/
  | absent
  /-- Several nodes in one place. -/
  | group (items : List Schema)
  /-- A value of a class that is no part of the schema. -/
  | foreign (className : String)
  /-- The name of a type, and for a vector the type of its elements. -/
  | type (id : Int) (name : String) (dataType : Schema)
  /-- A literal of a kind. -/
  | literal (id : Int) (position : Position) (kind : String) (value : Constant)
  /-- The use of a name. -/
  | identifier (id : Int) (position : Position) (name : String)
  /-- An error or a warning in the place of what cannot be shown. -/
  | message (id : Int) (position : Position) (kind tag description : String)
  /-- An operator with one operand. -/
  | unary (id : Int) (position : Position) (opcode : String) (expression : Schema)
  /-- An operator with two operands. -/
  | binary (id : Int) (position : Position) (opcode : String) (left right : Schema)
  /-- A call of a function. -/
  | call (id : Int) (position : Position) (name : String) (arguments : List Schema)
  /-- Statements in order. -/
  | block (id : Int) (statements : List Schema)
  /-- A choice between two blocks. -/
  | conditional (id : Int) (position : Position) (condition thenBlock elseBlock : Schema)
  /-- A loop that tests first. -/
  | whileLoop (id : Int) (position : Position) (condition block : Schema)
  /-- A loop with a header of three clauses. -/
  | forLoop (id : Int) (position : Position) (init condition post block : Schema)
  /-- The end of a function, possibly with a value. -/
  | returned (id : Int) (position : Position) (expression : Schema)
  /-- A variable or parameter. -/
  | var (id : Int) (position : Position) (name : String) (dataType : Schema)
      (isReference isConst : Bool) (init : Schema) (isParameter : Bool)
  /-- A field of a structure. -/
  | field (id : Int) (position : Position) (name : String) (dataType : Schema)
  /-- A function. -/
  | function (id : Int) (position : Position) (name : String) (returnType : Schema)
      (parameters : List Schema) (block : Schema)
  /-- A structure. -/
  | struct (id : Int) (position : Position) (name : String) (attributes : List Schema)
  /-- A whole program. -/
  | document (id : Int) (statements : List Schema)
  deriving Inhabited

namespace Schema

/-- Whether there is nothing. -/
def isAbsent : Schema → Bool
  | .absent => true
  | _ => false

/-- Whether there are several nodes in one place. -/
def isGroup : Schema → Bool
  | .group _ => true
  | _ => false

/-- The nodes that a result contributes to a list: none, its items, or itself. -/
def splice : Schema → List Schema
  | .absent => []
  | .group items => items
  | node => [node]

/-- The items of a group, and nothing for any other result. -/
def groupItems : Schema → List Schema
  | .group items => items
  | _ => []

@[simp] theorem splice_absent : splice .absent = [] := rfl

@[simp] theorem splice_group (items : List Schema) : splice (.group items) = items := rfl

@[simp] theorem groupItems_group (items : List Schema) : groupItems (.group items) = items := rfl

end Schema

end TeachingTree

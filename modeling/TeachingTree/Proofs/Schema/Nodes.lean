/-
**What the nodes of a tree contribute, from left to right.**

A node comes before the nodes below it; its places come in the order in which they are written, and
the nodes of a list in the order of the list.  What is of interest in single nodes is picked from
them in this order: the leaves of a document, its calls.

Main definitions:

* `Schema.pick`, `Schema.pickAll` — what single nodes contribute, in the order of the nodes;
* `Leaf`, `Schema.leaves` — the names, literals and messages of a tree;
* `CallHead`, `Schema.calls` — the calls of a tree, without their arguments;
* `Schema.groupedOperators`, `Schema.groupedClauses` — the nodes that hold a group in a place for
  one node.

Main results:

* `Schema.pickAll_flatMap_splice` — splicing keeps what nodes contribute;
* `Schema.pickAll_groupItems` — only a group has items to contribute.
-/

import TeachingTree.Schema.Node

set_option relaxedAutoImplicit false
set_option autoImplicit false

namespace TeachingTree

namespace Schema

/-! ### Picking from nodes -/

section Pick

variable {α : Type} (f : Schema → Option α)

mutual

/-- What the nodes of a tree contribute, each before the nodes below it. -/
def pick : Schema → List α
  | .absent => []
  | .group items => pickAll items
  | .foreign _ => []
  | .type id name dataType => (f (.type id name dataType)).toList ++ pick dataType
  | .literal id position kind value => (f (.literal id position kind value)).toList
  | .identifier id position name => (f (.identifier id position name)).toList
  | .message id position kind tag description =>
    (f (.message id position kind tag description)).toList
  | .unary id position opcode expression =>
    (f (.unary id position opcode expression)).toList ++ pick expression
  | .binary id position opcode left right =>
    (f (.binary id position opcode left right)).toList ++ pick left ++ pick right
  | .call id position name arguments =>
    (f (.call id position name arguments)).toList ++ pickAll arguments
  | .block id statements => (f (.block id statements)).toList ++ pickAll statements
  | .conditional id position condition thenBlock elseBlock =>
    (f (.conditional id position condition thenBlock elseBlock)).toList ++ pick condition
      ++ pick thenBlock ++ pick elseBlock
  | .whileLoop id position condition body =>
    (f (.whileLoop id position condition body)).toList ++ pick condition ++ pick body
  | .forLoop id position init condition post body =>
    (f (.forLoop id position init condition post body)).toList ++ pick init ++ pick condition
      ++ pick post ++ pick body
  | .returned id position expression =>
    (f (.returned id position expression)).toList ++ pick expression
  | .var id position name dataType isReference isConst init isParameter =>
    (f (.var id position name dataType isReference isConst init isParameter)).toList
      ++ pick dataType ++ pick init
  | .field id position name dataType =>
    (f (.field id position name dataType)).toList ++ pick dataType
  | .function id position name returnType parameters body =>
    (f (.function id position name returnType parameters body)).toList ++ pick returnType
      ++ pickAll parameters ++ pick body
  | .struct id position name attributes =>
    (f (.struct id position name attributes)).toList ++ pickAll attributes
  | .document id statements => (f (.document id statements)).toList ++ pickAll statements

/-- What the nodes of several trees contribute, in order. -/
def pickAll : List Schema → List α
  | [] => []
  | tree :: trees => pick tree ++ pickAll trees

end

theorem pickAll_append (trees others : List Schema) :
    pickAll f (trees ++ others) = pickAll f trees ++ pickAll f others := by
  induction trees with
  | nil => rfl
  | cons tree trees ih => simp [pickAll, ih]

/-- The nodes that a result contributes to a list are its own. -/
theorem pickAll_splice (tree : Schema) : pickAll f tree.splice = tree.pick f := by
  cases tree <;> simp [splice, pick, pickAll]

theorem pickAll_flatMap_splice (trees : List Schema) :
    pickAll f (trees.flatMap splice) = pickAll f trees := by
  induction trees with
  | nil => rfl
  | cons tree trees ih => simp [pickAll, pickAll_append, pickAll_splice, ih]

/-- The items of a group are all that it holds, and other results have none. -/
theorem pickAll_groupItems (tree : Schema) :
    pickAll f tree.groupItems = if tree.isGroup then tree.pick f else [] := by
  cases tree <;> simp [groupItems, isGroup, pick, pickAll]

end Pick

end Schema

/-! ### Leaves -/

/-- A name, a literal or a message without its number. -/
inductive Leaf where
  /-- A literal of a kind. -/
  | literal (position : Position) (kind : String) (value : Constant)
  /-- The use of a name. -/
  | identifier (position : Position) (name : String)
  /-- An error or a warning. -/
  | message (position : Position) (kind tag description : String)

/-- The leaf that a node is, if it is one. -/
def Schema.leaf? : Schema → Option Leaf
  | .literal _ position kind value => some (.literal position kind value)
  | .identifier _ position name => some (.identifier position name)
  | .message _ position kind tag description => some (.message position kind tag description)
  | _ => none

/-- The names, literals and messages of a tree, from left to right. -/
def Schema.leaves (tree : Schema) : List Leaf := tree.pick leaf?

/-! ### Calls -/

/-- A call without its number and its arguments. -/
structure CallHead where
  /-- The place of the call. -/
  position : Position
  /-- What is called. -/
  name : String
  deriving DecidableEq, Repr

/-- The call that a node is, if it is one. -/
def Schema.callHead? : Schema → Option CallHead
  | .call _ position name _ => some ⟨position, name⟩
  | _ => none

/-- The calls of a tree, from left to right. -/
def Schema.calls (tree : Schema) : List CallHead := tree.pick callHead?

/-! ### Groups in places for one node -/

/-- The place of an operator that has a group for an operand. -/
def Schema.groupedOperator? : Schema → Option Position
  | .unary _ position _ expression => if expression.isGroup then some position else none
  | .binary _ position _ left right =>
    if left.isGroup || right.isGroup then some position else none
  | _ => none

/-- The operators of a tree that have a group for an operand, from left to right. -/
def Schema.groupedOperators (tree : Schema) : List Position := tree.pick groupedOperator?

/-- The place of a statement or a variable that has a group for its condition, a clause of its
header, or its value. -/
def Schema.groupedClause? : Schema → Option Position
  | .conditional _ position condition _ _ => if condition.isGroup then some position else none
  | .whileLoop _ position condition _ => if condition.isGroup then some position else none
  | .forLoop _ position init condition post _ =>
    if init.isGroup || condition.isGroup || post.isGroup then some position else none
  | .returned _ position expression => if expression.isGroup then some position else none
  | .var _ position _ _ _ _ init _ => if init.isGroup then some position else none
  | _ => none

/-- The statements and variables of a tree that have a group for their condition, a clause of their
header, or their value. -/
def Schema.groupedClauses (tree : Schema) : List Position := tree.pick groupedClause?

end TeachingTree

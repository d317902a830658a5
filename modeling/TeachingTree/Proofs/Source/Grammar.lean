/-
**The grammar of source trees.**

A source tree may hold any node in any place, as far as types go.  The grammar says which nodes
belong where: each place has a role, and each role admits nodes of some classes only.  Besides, the
nodes of a well-formed tree keep some promises about themselves.  A type that is a vector has an
element type, down to one that is no vector; a function has a body exactly if it is a definition;
and a variable has an initial value only if it is given after an equals sign or in parentheses.

Main definitions:

* `SourceType.Complete` — types in which every vector has an element type;
* `Role`, `Node.places`, `Role.admits` — the roles of places, the nodes in the places of a node with
  their roles, and the nodes that a role admits;
* `Node.types`, `Node.KeepsPromise`, `Node.IsRegular` — what a node promises about itself;
* `Node.Holds` — the nodes in the places of a tree, at any depth;
* `Grammatical` — trees of the grammar.

Main results:

* `SourceType.Complete.exists_vectorElement` — a complete type has a type inside its vectors;
* `Grammatical.of_holds` — what a tree holds is of the grammar if its places are.
-/

import TeachingTree.Source.Node
import TeachingTree.Source.Signature
import Mathlib.Tactic.SplitIfs

set_option relaxedAutoImplicit false
set_option autoImplicit false

namespace TeachingTree

/-! ### Types -/

namespace Signature

theorem spelling_shapeOfName (cs : List Char) : (shapeOfName cs).spelling = String.ofList cs := by
  simp only [shapeOfName]
  split_ifs <;> rfl

end Signature

namespace SourceType

/-- Types in which every vector has an element type, down to a type that is no vector. -/
inductive Complete : SourceType → Prop where
  | plain {shape : TypeShape} (h : shape.kind ≠ .vector) : Complete (.plain shape)
  | containing {shape : TypeShape} {element : SourceType} (h : Complete element) :
      Complete (.containing shape element)

/-- **A complete type has a type inside its vectors**, and that is no vector. -/
theorem Complete.exists_vectorElement {type : SourceType} (h : type.Complete) :
    ∃ element, type.vectorElement? = some element ∧ element.kind ≠ .vector := by
  induction h with
  | plain h => exact ⟨_, if_neg h, h⟩
  | @containing shape element _ ih =>
      simp only [vectorElement?]
      split
      · exact ih
      · rename_i hkind
        exact ⟨_, rfl, hkind⟩

theorem Complete.withConst {type : SourceType} (h : type.Complete) (isConst : Bool) :
    (type.withConst isConst).Complete := by
  cases h with
  | plain h => exact .plain h
  | containing h => exact .containing h

theorem Complete.inVectors {type : SourceType} (h : type.Complete) (depth : Nat) :
    (SourceType.inVectors depth type).Complete := by
  induction depth with
  | zero => exact h
  | succ depth ih => exact .containing ih

/-- No name stands for a vector. -/
theorem kind_ofName_ne_vector (name : String) : (SourceType.ofName name).kind ≠ .vector := by
  simp only [SourceType.ofName, SourceType.kind, SourceType.shape, Signature.shapeOfName]
  split_ifs <;> simp

theorem complete_ofName (name : String) : (SourceType.ofName name).Complete :=
  .plain (kind_ofName_ne_vector name)

/-- The vectors around a type that is none are found again. -/
theorem vectorDepth_inVectors {type : SourceType} (h : type.kind ≠ .vector) (depth : Nat) :
    (SourceType.inVectors depth type).vectorDepth = depth ∧
      (SourceType.inVectors depth type).vectorElement? = some type := by
  induction depth with
  | zero => cases type <;> exact ⟨if_neg h, if_neg h⟩
  | succ depth ih =>
      refine ⟨?_, ?_⟩
      · rw [SourceType.inVectors, SourceType.vectorOf, SourceType.vectorDepth, if_pos rfl, ih.1]
      · rw [SourceType.inVectors, SourceType.vectorOf, SourceType.vectorElement?, if_pos rfl, ih.2]

/-- A signature that stands for a vector names its elements. -/
theorem complete_ofSignature (signature : String) : (SourceType.ofSignature signature).Complete :=
  (complete_ofName _).inVectors _

end SourceType

/-! ### Places -/

/-- What a place is for. -/
inductive Role where
  /-- An expression. -/
  | expression
  /-- A statement. -/
  | statement
  /-- A declaration. -/
  | declaration
  /-- A member of a record. -/
  | member
  deriving DecidableEq, Repr

namespace Node

/-- The variable that a condition declares, in its place. -/
def declaredPlaces : Option Variable → List (Role × Node)
  | none => []
  | some v => [(.declaration, .var v)]

/-- The nodes in the places of a node, each with the role of its place. -/
def places : Node → List (Role × Node)
  | .unary _ operand _ _ => [(.expression, operand)]
  | .binary _ lhs rhs _ => [(.expression, lhs), (.expression, rhs)]
  | .member base declared _ => [(.expression, base), (.member, .field declared)]
  | .subscript base index _ => [(.expression, base), (.expression, index)]
  | .operatorCall _ args _ => args.map fun arg => (.expression, arg)
  | .methodCall _ receiver args _ =>
    (.expression, receiver) :: args.map fun arg => (.expression, arg)
  | .call _ args _ => args.map fun arg => (.expression, arg)
  | .compound body _ => body.map fun stmt => (.statement, stmt)
  | .ifStmt condition thenBranch elseBranch declared _ =>
    declaredPlaces declared ++
      [(.expression, condition), (.statement, thenBranch), (.statement, elseBranch)]
  | .whileStmt condition body declared _ =>
    declaredPlaces declared ++ [(.expression, condition), (.statement, body)]
  | .forStmt init condition increment body _ =>
    [(.statement, init), (.expression, condition), (.expression, increment), (.statement, body)]
  | .doStmt body condition _ => [(.statement, body), (.expression, condition)]
  | .returnStmt value _ => [(.expression, value)]
  | .labelStmt _ sub _ => [(.statement, sub)]
  | .declStmt decls _ => decls.map fun decl => (.declaration, decl)
  | .var v => [(.expression, v.init)]
  | .function _ _ params body _ _ =>
    params.map (fun param => (.declaration, .var param)) ++ [(.statement, body)]
  | .record _ members _ _ => members.map fun member => (.member, member)
  | .unit decls _ => decls.map fun decl => (.declaration, decl)
  | _ => []

/-- The nodes in the places of a tree, at any depth, each with the role of its place. -/
inductive Holds (root : Node) : Role → Node → Prop where
  | place {role : Role} {node : Node} (h : (role, node) ∈ root.places) : Holds root role node
  | deeper {role role' : Role} {node other : Node} (h : Holds root role node)
      (h' : (role', other) ∈ node.places) : Holds root role' other

/-! ### Classes of nodes -/

/-- Whether a node is an expression.  No expression at all counts as one, and so does a construct
outside the subset. -/
def isExpression : Node → Bool
  | .absent => true
  | .integer .. => true
  | .floating .. => true
  | .character .. => true
  | .string .. => true
  | .bool .. => true
  | .reference .. => true
  | .unary .. => true
  | .binary .. => true
  | .member .. => true
  | .subscript .. => true
  | .operatorCall .. => true
  | .methodCall .. => true
  | .call .. => true
  | .unmodeled .. => true
  | _ => false

/-- Whether a node is a statement and no expression. -/
def isStatement : Node → Bool
  | .compound .. => true
  | .ifStmt .. => true
  | .whileStmt .. => true
  | .forStmt .. => true
  | .doStmt .. => true
  | .returnStmt .. => true
  | .breakStmt .. => true
  | .continueStmt .. => true
  | .gotoStmt .. => true
  | .labelStmt .. => true
  | .nullStmt .. => true
  | .unsupportedStmt .. => true
  | .declStmt .. => true
  | _ => false

/-- Whether a node is a member of a record. -/
def isMember : Node → Bool
  | .field .. => true
  | .method .. => true
  | .unsupportedDecl .. => true
  | _ => false

/-- Whether a node is a declaration. -/
def isDeclaration : Node → Bool
  | .function .. => true
  | .var .. => true
  | .record .. => true
  | node => node.isMember

end Node

/-- Whether a node of its class belongs in a place.  An expression may stand as a statement. -/
def Role.admits (role : Role) (node : Node) : Bool :=
  match role with
  | .expression => node.isExpression
  | .statement => node.isStatement || node.isExpression
  | .declaration => node.isDeclaration
  | .member => node.isMember

/-! ### Promises -/

namespace Node

/-- The types that a node tells. -/
def types : Node → List SourceType
  | .reference _ declared _ => [declared]
  | .var v => [v.head.type]
  | .field f => [f.type]
  | .function _ result _ _ _ _ => [result]
  | .type named => [named]
  | _ => []

/-- The promises of functions and variables: a function has a body exactly if it is a definition,
and an initial value is given after an equals sign or in parentheses. -/
def KeepsPromise : Node → Prop
  | .function _ _ _ body isDefinition _ => body ≠ .absent ↔ isDefinition = true
  | .var v =>
    v.init ≠ .absent → v.head.initStyle = some .assigned ∨ v.head.initStyle = some .called
  | _ => True

/-- Nodes that keep their promises and tell complete types only. -/
structure IsRegular (node : Node) : Prop where
  complete : ∀ type ∈ node.types, type.Complete
  promise : node.KeepsPromise

end Node

/-! ### The grammar -/

/-- **Trees of the grammar**: their roles admit them, they are regular, and what stands in their
places is of the grammar. -/
inductive Grammatical : Role → Node → Prop where
  | intro {role : Role} {node : Node} (admits : role.admits node = true)
      (regular : node.IsRegular)
      (places : ∀ place ∈ node.places, Grammatical place.1 place.2) : Grammatical role node

namespace Grammatical

variable {role : Role} {node : Node}

/-- A node that tells no type is of the grammar if what stands in its places is. -/
theorem of_places (admits : role.admits node = true) (htypes : node.types = [])
    (promise : node.KeepsPromise)
    (places : ∀ place ∈ node.places, Grammatical place.1 place.2) : Grammatical role node :=
  .intro admits ⟨htypes ▸ List.forall_mem_nil _, promise⟩ places

/-- A node that tells no type and has no places is of the grammar. -/
theorem leaf (admits : role.admits node = true) (htypes : node.types = [])
    (promise : node.KeepsPromise) (hplaces : node.places = []) : Grammatical role node :=
  of_places admits htypes promise (hplaces ▸ List.forall_mem_nil _)

theorem admits (h : Grammatical role node) : role.admits node = true := by
  cases h with
  | intro admits _ _ => exact admits

theorem regular (h : Grammatical role node) : node.IsRegular := by
  cases h with
  | intro _ regular _ => exact regular

theorem places (h : Grammatical role node) :
    ∀ place ∈ node.places, Grammatical place.1 place.2 := by
  cases h with
  | intro _ _ places => exact places

/-- A tree of the grammar is so in every role that admits it. -/
theorem of_admits (h : Grammatical role node) {role' : Role} (hadmits : role'.admits node = true) :
    Grammatical role' node := .intro hadmits h.regular h.places

/-- An expression is a statement. -/
theorem statement (h : Grammatical .expression node) : Grammatical .statement node := by
  refine h.of_admits ?_
  have hadmits : node.isExpression = true := h.admits
  rw [Role.admits, hadmits, Bool.or_true]

/-- **What a tree holds is of the grammar, in its role**, if what stands in the places of its root
is. -/
theorem of_holds {root : Node} (h : ∀ place ∈ root.places, Grammatical place.1 place.2)
    (hnode : root.Holds role node) : Grammatical role node := by
  induction hnode with
  | place hplace => exact h _ hplace
  | deeper _ hplace ih => exact ih.places _ hplace

end Grammatical

end TeachingTree

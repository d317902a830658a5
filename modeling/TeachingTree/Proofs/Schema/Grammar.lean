/-
**The grammar of the schema.**

The places of a node may hold anything, as far as their type goes: nothing, a node, several nodes,
or a value that is no part of the schema.  The grammar says what they hold in a well-formed tree.
Lists hold single nodes; the places of blocks, types, parameters and fields hold nodes of these
sorts; any other place holds nothing, a node, or single nodes in a row.  What values literals may
have is a parameter of the grammar.

* `NodeSort`, `Schema.sort?` — the sorts of node that places are reserved for;
* `Schema.Conforms` — the nodes of the grammar;
* `Schema.Fits` — what may stand in a place that is not reserved for a sort of node;
* `Schema.Conforms.fits`, `Schema.Fits.conforms` — a node may stand in any such place, and what
  stands there is a node if it is of some sort;
* `Schema.fits_iff` — what stands in a place, in words;
* `Schema.conforms_of_mem_flatMap_splice` — what such places contribute to a list.
-/

import TeachingTree.Schema.Node

set_option relaxedAutoImplicit false
set_option autoImplicit false

namespace TeachingTree

/-- Whether a value is a truth value, a number or a text. -/
def Constant.isScalar : Constant → Bool
  | .bool _ => true
  | .integer _ => true
  | .floating _ => true
  | .text _ => true
  | _ => false

/-- The sorts of node that places are reserved for. -/
inductive NodeSort where
  /-- The name of a type. -/
  | type
  /-- Statements in order. -/
  | block
  /-- A variable or parameter. -/
  | var
  /-- A field of a structure. -/
  | field
  deriving DecidableEq, Repr

namespace Schema

/-- The sort of a node, if places are reserved for its like. -/
def sort? : Schema → Option NodeSort
  | .type .. => some .type
  | .block .. => some .block
  | .var .. => some .var
  | .field .. => some .field
  | _ => none

/-! ### The grammar -/

/-- **The nodes of the grammar.**  Places that are reserved for a sort of node hold one of that
sort; what the others hold contributes nodes of the grammar to a list. -/
inductive Conforms (value : Constant → Prop) : Schema → Prop where
  | type {id : Int} {name : String} : Conforms value (.type id name .absent)
  | vector {id : Int} {name : String} {dataType : Schema} :
      dataType.sort? = some .type → Conforms value dataType →
      Conforms value (.type id name dataType)
  | literal {id : Int} {position : Position} {kind : String} {v : Constant} :
      value v → Conforms value (.literal id position kind v)
  | identifier {id : Int} {position : Position} {name : String} :
      Conforms value (.identifier id position name)
  | message {id : Int} {position : Position} {kind tag description : String} :
      Conforms value (.message id position kind tag description)
  | unary {id : Int} {position : Position} {opcode : String} {expression : Schema} :
      (∀ node ∈ expression.splice, Conforms value node) →
      Conforms value (.unary id position opcode expression)
  | binary {id : Int} {position : Position} {opcode : String} {left right : Schema} :
      (∀ node ∈ left.splice, Conforms value node) →
      (∀ node ∈ right.splice, Conforms value node) →
      Conforms value (.binary id position opcode left right)
  -- lists hold single nodes
  | call {id : Int} {position : Position} {name : String} {arguments : List Schema} :
      (∀ node ∈ arguments, Conforms value node) → Conforms value (.call id position name arguments)
  | block {id : Int} {statements : List Schema} :
      (∀ node ∈ statements, Conforms value node) → Conforms value (.block id statements)
  -- branches and bodies are blocks
  | conditional {id : Int} {position : Position} {condition thenBlock : Schema} :
      (∀ node ∈ condition.splice, Conforms value node) →
      thenBlock.sort? = some .block → Conforms value thenBlock →
      Conforms value (.conditional id position condition thenBlock .absent)
  | conditionalElse {id : Int} {position : Position} {condition thenBlock elseBlock : Schema} :
      (∀ node ∈ condition.splice, Conforms value node) →
      thenBlock.sort? = some .block → Conforms value thenBlock →
      elseBlock.sort? = some .block → Conforms value elseBlock →
      Conforms value (.conditional id position condition thenBlock elseBlock)
  | whileLoop {id : Int} {position : Position} {condition body : Schema} :
      (∀ node ∈ condition.splice, Conforms value node) →
      body.sort? = some .block → Conforms value body →
      Conforms value (.whileLoop id position condition body)
  | forLoop {id : Int} {position : Position} {init condition post body : Schema} :
      (∀ node ∈ init.splice, Conforms value node) →
      (∀ node ∈ condition.splice, Conforms value node) →
      (∀ node ∈ post.splice, Conforms value node) →
      body.sort? = some .block → Conforms value body →
      Conforms value (.forLoop id position init condition post body)
  | returned {id : Int} {position : Position} {expression : Schema} :
      (∀ node ∈ expression.splice, Conforms value node) →
      Conforms value (.returned id position expression)
  -- declarations have types, parameters are variables, and attributes are fields
  | var {id : Int} {position : Position} {name : String} {dataType init : Schema}
      {isReference isConst isParameter : Bool} :
      dataType.sort? = some .type → Conforms value dataType →
      init.isGroup = false → (∀ node ∈ init.splice, Conforms value node) →
      Conforms value (.var id position name dataType isReference isConst init isParameter)
  | field {id : Int} {position : Position} {name : String} {dataType : Schema} :
      dataType.sort? = some .type → Conforms value dataType →
      Conforms value (.field id position name dataType)
  | function {id : Int} {position : Position} {name : String} {returnType body : Schema}
      {parameters : List Schema} :
      returnType.sort? = some .type → Conforms value returnType →
      (∀ node ∈ parameters, node.sort? = some .var) → (∀ node ∈ parameters, Conforms value node) →
      body.sort? = some .block → Conforms value body →
      Conforms value (.function id position name returnType parameters body)
  | struct {id : Int} {position : Position} {name : String} {attributes : List Schema} :
      (∀ node ∈ attributes, node.sort? = some .field) → (∀ node ∈ attributes, Conforms value node) →
      Conforms value (.struct id position name attributes)
  | document {id : Int} {statements : List Schema} :
      (∀ node ∈ statements, Conforms value node) → Conforms value (.document id statements)

/-- What may stand in a place that is not reserved for a sort of node: nothing, a node of the
grammar, or several of them in a row. -/
def Fits (value : Constant → Prop) (place : Schema) : Prop :=
  ∀ node ∈ place.splice, node.Conforms value

variable {value : Constant → Prop}

/-- A node of the grammar may stand in any place that is not reserved. -/
theorem Conforms.fits {node : Schema} (h : node.Conforms value) : node.Fits value := by
  have hsplice : node.splice = [node] := by cases h <;> rfl
  intro item hitem
  rw [hsplice] at hitem
  rwa [List.mem_singleton.1 hitem]

theorem splice_of_sort? {node : Schema} {sort : NodeSort} (h : node.sort? = some sort) :
    node.splice = [node] := by
  cases node <;> first | rfl | simp [sort?] at h

/-- What fits and is of some sort is a node. -/
theorem Fits.conforms {place : Schema} (h : place.Fits value) {sort : NodeSort}
    (hsort : place.sort? = some sort) : place.Conforms value := by
  refine h place ?_
  rw [splice_of_sort? hsort]
  exact List.mem_singleton_self _

theorem fits_absent : Schema.absent.Fits value := by
  intro node hnode
  simp at hnode

theorem fits_group {items : List Schema} (h : ∀ node ∈ items, node.Conforms value) :
    (Schema.group items).Fits value := h

/-- The nodes that fitting results contribute to a list are nodes of the grammar. -/
theorem conforms_of_mem_flatMap_splice {results : List Schema}
    (h : ∀ result ∈ results, result.Fits value) :
    ∀ node ∈ results.flatMap splice, node.Conforms value := by
  intro node hnode
  obtain ⟨result, hresult, hnode⟩ := List.mem_flatMap.1 hnode
  exact h result hresult node hnode

/-- A place holds nothing, a node of the grammar, or several of them in a row. -/
theorem fits_iff {place : Schema} :
    place.Fits value ↔ place = .absent ∨ place.Conforms value ∨
      ∃ items, place = .group items ∧ ∀ node ∈ items, node.Conforms value := by
  constructor
  · intro h
    cases place with
    | absent => exact .inl rfl
    | group items => exact .inr (.inr ⟨items, rfl, h⟩)
    | _ => exact .inr (.inl (h _ (List.mem_singleton_self _)))
  · rintro (rfl | h | ⟨items, rfl, h⟩)
    · exact fits_absent
    · exact h.fits
    · exact fits_group h

end Schema

end TeachingTree

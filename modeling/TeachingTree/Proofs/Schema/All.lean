/-
**What holds of every node of a tree.**

An empty place and a group are no nodes: what holds of every node says nothing of them.  A value
that is no part of the schema counts as a node here, so that trees without such values can be told
from others.

Main definitions:

* `Schema.All` — every node of a tree has a property;
* `Schema.IsNode` — nodes of the schema, where the value of a literal has a property.

Main results:

* `Schema.Conforms.all` — the trees of the grammar consist of nodes of the schema;
* `Schema.All.and_of_pick_eq_nil` — where nothing is picked, no node contributes anything.
-/

import TeachingTree.Proofs.Schema.Grammar
import TeachingTree.Proofs.Schema.Nodes

set_option relaxedAutoImplicit false
set_option autoImplicit false

namespace TeachingTree.Schema

/-! ### Nodes of a tree -/

/-- Every node of a tree has a property; an empty place and a group are no nodes. -/
inductive All (p : Schema → Prop) : Schema → Prop where
  | absent : All p .absent
  | group {items : List Schema} : (∀ item ∈ items, All p item) → All p (.group items)
  | foreign {className : String} : p (.foreign className) → All p (.foreign className)
  | type {id : Int} {name : String} {dataType : Schema} : p (.type id name dataType) →
      All p dataType → All p (.type id name dataType)
  | literal {id : Int} {position : Position} {kind : String} {value : Constant} :
      p (.literal id position kind value) → All p (.literal id position kind value)
  | identifier {id : Int} {position : Position} {name : String} :
      p (.identifier id position name) → All p (.identifier id position name)
  | message {id : Int} {position : Position} {kind tag description : String} :
      p (.message id position kind tag description) →
      All p (.message id position kind tag description)
  | unary {id : Int} {position : Position} {opcode : String} {expression : Schema} :
      p (.unary id position opcode expression) → All p expression →
      All p (.unary id position opcode expression)
  | binary {id : Int} {position : Position} {opcode : String} {left right : Schema} :
      p (.binary id position opcode left right) → All p left → All p right →
      All p (.binary id position opcode left right)
  | call {id : Int} {position : Position} {name : String} {arguments : List Schema} :
      p (.call id position name arguments) → (∀ node ∈ arguments, All p node) →
      All p (.call id position name arguments)
  | block {id : Int} {statements : List Schema} : p (.block id statements) →
      (∀ node ∈ statements, All p node) → All p (.block id statements)
  | conditional {id : Int} {position : Position} {condition thenBlock elseBlock : Schema} :
      p (.conditional id position condition thenBlock elseBlock) → All p condition →
      All p thenBlock → All p elseBlock →
      All p (.conditional id position condition thenBlock elseBlock)
  | whileLoop {id : Int} {position : Position} {condition body : Schema} :
      p (.whileLoop id position condition body) → All p condition → All p body →
      All p (.whileLoop id position condition body)
  | forLoop {id : Int} {position : Position} {init condition post body : Schema} :
      p (.forLoop id position init condition post body) → All p init → All p condition →
      All p post → All p body → All p (.forLoop id position init condition post body)
  | returned {id : Int} {position : Position} {expression : Schema} :
      p (.returned id position expression) → All p expression →
      All p (.returned id position expression)
  | var {id : Int} {position : Position} {name : String} {dataType init : Schema}
      {isReference isConst isParameter : Bool} :
      p (.var id position name dataType isReference isConst init isParameter) →
      All p dataType → All p init →
      All p (.var id position name dataType isReference isConst init isParameter)
  | field {id : Int} {position : Position} {name : String} {dataType : Schema} :
      p (.field id position name dataType) → All p dataType →
      All p (.field id position name dataType)
  | function {id : Int} {position : Position} {name : String} {returnType body : Schema}
      {parameters : List Schema} : p (.function id position name returnType parameters body) →
      All p returnType → (∀ node ∈ parameters, All p node) → All p body →
      All p (.function id position name returnType parameters body)
  | struct {id : Int} {position : Position} {name : String} {attributes : List Schema} :
      p (.struct id position name attributes) → (∀ node ∈ attributes, All p node) →
      All p (.struct id position name attributes)
  | document {id : Int} {statements : List Schema} : p (.document id statements) →
      (∀ node ∈ statements, All p node) → All p (.document id statements)

/-- A node of the schema; the value of a literal has a property. -/
def IsNode (value : Constant → Prop) : Schema → Prop
  | .foreign _ => False
  | .literal _ _ _ v => value v
  | _ => True

section All

variable {p q : Schema → Prop} {place : Schema}

/-- What holds of what a place contributes to a list holds of the place. -/
theorem All.of_splice (h : ∀ node ∈ place.splice, node.All p) : place.All p := by
  cases place with
  | absent => exact .absent
  | group items => exact .group h
  | _ => exact h _ (List.mem_singleton_self _)

/-- The trees of the grammar consist of nodes of the schema. -/
theorem Conforms.all {value : Constant → Prop} {tree : Schema} (h : tree.Conforms value) :
    tree.All (IsNode value) := by
  induction h with
  | type => exact .type trivial .absent
  | vector _ _ ih => exact .type trivial ih
  | literal h => exact .literal h
  | identifier => exact .identifier trivial
  | message => exact .message trivial
  | unary _ ih => exact .unary trivial (.of_splice ih)
  | binary _ _ ihl ihr => exact .binary trivial (.of_splice ihl) (.of_splice ihr)
  | call _ ih => exact .call trivial ih
  | block _ ih => exact .block trivial ih
  | conditional _ _ _ ihc iht => exact .conditional trivial (.of_splice ihc) iht .absent
  | conditionalElse _ _ _ _ _ ihc iht ihe =>
      exact .conditional trivial (.of_splice ihc) iht ihe
  | whileLoop _ _ _ ihc ihb => exact .whileLoop trivial (.of_splice ihc) ihb
  | forLoop _ _ _ _ _ ihi ihc ihp ihb =>
      exact .forLoop trivial (.of_splice ihi) (.of_splice ihc) (.of_splice ihp) ihb
  | returned _ ih => exact .returned trivial (.of_splice ih)
  | var _ _ _ _ iht ihi => exact .var trivial iht (.of_splice ihi)
  | field _ _ ih => exact .field trivial ih
  | function _ _ _ _ _ _ iht ihp ihb => exact .function trivial iht ihp ihb
  | struct _ _ ih => exact .struct trivial ih
  | document _ ih => exact .document trivial ih

/-! ### Where nothing is picked -/

section Pick

variable {α : Type} {f : Schema → Option α}

theorem pick_eq_nil_of_mem {items : List Schema} (h : pickAll f items = []) :
    ∀ item ∈ items, item.pick f = [] := by
  induction items with
  | nil => simp
  | cons item items ih =>
      rw [pickAll, List.append_eq_nil_iff] at h
      exact List.forall_mem_cons.2 ⟨h.1, ih h.2⟩

/-- **Where nothing is picked, no node contributes anything.** -/
theorem All.and_of_pick_eq_nil (hforeign : ∀ className, f (.foreign className) = none)
    {tree : Schema} (h : tree.All p) (hpick : tree.pick f = []) :
    tree.All fun node => p node ∧ f node = none := by
  induction h with
  | absent => exact .absent
  | group _ ih => exact .group fun item hitem => ih item hitem (pick_eq_nil_of_mem hpick item hitem)
  | foreign h => exact .foreign ⟨h, hforeign _⟩
  | literal h => exact .literal ⟨h, Option.toList_eq_nil_iff.1 hpick⟩
  | identifier h => exact .identifier ⟨h, Option.toList_eq_nil_iff.1 hpick⟩
  | message h => exact .message ⟨h, Option.toList_eq_nil_iff.1 hpick⟩
  | type h _ ih =>
      simp only [pick, List.append_eq_nil_iff, Option.toList_eq_nil_iff] at hpick
      exact .type ⟨h, hpick.1⟩ (ih hpick.2)
  | unary h _ ih =>
      simp only [pick, List.append_eq_nil_iff, Option.toList_eq_nil_iff] at hpick
      exact .unary ⟨h, hpick.1⟩ (ih hpick.2)
  | binary h _ _ ihl ihr =>
      simp only [pick, List.append_eq_nil_iff, Option.toList_eq_nil_iff] at hpick
      obtain ⟨⟨hf, hl⟩, hr⟩ := hpick
      exact .binary ⟨h, hf⟩ (ihl hl) (ihr hr)
  | call h _ ih =>
      simp only [pick, List.append_eq_nil_iff, Option.toList_eq_nil_iff] at hpick
      exact .call ⟨h, hpick.1⟩ fun node hnode =>
        ih node hnode (pick_eq_nil_of_mem hpick.2 node hnode)
  | block h _ ih =>
      simp only [pick, List.append_eq_nil_iff, Option.toList_eq_nil_iff] at hpick
      exact .block ⟨h, hpick.1⟩ fun node hnode =>
        ih node hnode (pick_eq_nil_of_mem hpick.2 node hnode)
  | conditional h _ _ _ ihc iht ihe =>
      simp only [pick, List.append_eq_nil_iff, Option.toList_eq_nil_iff] at hpick
      obtain ⟨⟨⟨hf, hc⟩, ht⟩, he⟩ := hpick
      exact .conditional ⟨h, hf⟩ (ihc hc) (iht ht) (ihe he)
  | whileLoop h _ _ ihc ihb =>
      simp only [pick, List.append_eq_nil_iff, Option.toList_eq_nil_iff] at hpick
      obtain ⟨⟨hf, hc⟩, hb⟩ := hpick
      exact .whileLoop ⟨h, hf⟩ (ihc hc) (ihb hb)
  | forLoop h _ _ _ _ ihi ihc ihp ihb =>
      simp only [pick, List.append_eq_nil_iff, Option.toList_eq_nil_iff] at hpick
      obtain ⟨⟨⟨⟨hf, hi⟩, hc⟩, hp⟩, hb⟩ := hpick
      exact .forLoop ⟨h, hf⟩ (ihi hi) (ihc hc) (ihp hp) (ihb hb)
  | returned h _ ih =>
      simp only [pick, List.append_eq_nil_iff, Option.toList_eq_nil_iff] at hpick
      exact .returned ⟨h, hpick.1⟩ (ih hpick.2)
  | var h _ _ iht ihi =>
      simp only [pick, List.append_eq_nil_iff, Option.toList_eq_nil_iff] at hpick
      obtain ⟨⟨hf, ht⟩, hi⟩ := hpick
      exact .var ⟨h, hf⟩ (iht ht) (ihi hi)
  | field h _ ih =>
      simp only [pick, List.append_eq_nil_iff, Option.toList_eq_nil_iff] at hpick
      exact .field ⟨h, hpick.1⟩ (ih hpick.2)
  | function h _ _ _ iht ihp ihb =>
      simp only [pick, List.append_eq_nil_iff, Option.toList_eq_nil_iff] at hpick
      obtain ⟨⟨⟨hf, ht⟩, hp⟩, hb⟩ := hpick
      exact .function ⟨h, hf⟩ (iht ht)
        (fun node hnode => ihp node hnode (pick_eq_nil_of_mem hp node hnode)) (ihb hb)
  | struct h _ ih =>
      simp only [pick, List.append_eq_nil_iff, Option.toList_eq_nil_iff] at hpick
      exact .struct ⟨h, hpick.1⟩ fun node hnode =>
        ih node hnode (pick_eq_nil_of_mem hpick.2 node hnode)
  | document h _ ih =>
      simp only [pick, List.append_eq_nil_iff, Option.toList_eq_nil_iff] at hpick
      exact .document ⟨h, hpick.1⟩ fun node hnode =>
        ih node hnode (pick_eq_nil_of_mem hpick.2 node hnode)

end Pick

end All

end TeachingTree.Schema

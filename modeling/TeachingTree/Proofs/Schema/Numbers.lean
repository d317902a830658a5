/-
**The numbers in a node.**

Every node of the schema carries a number.  This module lists the numbers that occur anywhere in a
node, and says when lists of numbers follow one another: *ascending* blocks are such that every
number of an earlier block is smaller than every number of a later one.  The blocks are the numbers
of the node itself and of the nodes below it, put in the order in which they are handed out.

Main definitions:

* `Schema.numbers` — the numbers that occur anywhere in a node;
* `Schema.isLeaf` — whether there is nothing below a node;
* `Ascending` — blocks of numbers that follow one another.

Main results:

* `Schema.numbersOf_eq_flatMap`, `Schema.numbersOf_flatMap_splice` — numbers in lists of nodes;
* `Ascending.nodup_flatten` — ascending blocks without repetitions have none together;
* `Schema.ascending_splice` — the order of results is that of the nodes they contribute.
-/

import TeachingTree.Schema.Node

set_option relaxedAutoImplicit false
set_option autoImplicit false

namespace TeachingTree

/-! ### Numbers of nodes -/

namespace Schema

mutual

/-- The numbers that occur anywhere in a node, its own first. -/
def numbers : Schema → List Int
  | .absent => []
  | .group items => numbersOf items
  | .foreign _ => []
  | .type id _ dataType => id :: numbers dataType
  | .literal id _ _ _ => [id]
  | .identifier id _ _ => [id]
  | .message id _ _ _ _ => [id]
  | .unary id _ _ expression => id :: numbers expression
  | .binary id _ _ left right => id :: (numbers left ++ numbers right)
  | .call id _ _ arguments => id :: numbersOf arguments
  | .block id statements => id :: numbersOf statements
  | .conditional id _ condition thenBlock elseBlock =>
    id :: (numbers condition ++ numbers thenBlock ++ numbers elseBlock)
  | .whileLoop id _ condition body => id :: (numbers condition ++ numbers body)
  | .forLoop id _ init condition post body =>
    id :: (numbers init ++ numbers condition ++ numbers post ++ numbers body)
  | .returned id _ expression => id :: numbers expression
  | .var id _ _ dataType _ _ init _ => id :: (numbers dataType ++ numbers init)
  | .field id _ _ dataType => id :: numbers dataType
  | .function id _ _ returnType parameters body =>
    id :: (numbers returnType ++ numbersOf parameters ++ numbers body)
  | .struct id _ _ attributes => id :: numbersOf attributes
  | .document id statements => id :: numbersOf statements

/-- The numbers that occur anywhere in nodes in order. -/
def numbersOf : List Schema → List Int
  | [] => []
  | node :: nodes => numbers node ++ numbersOf nodes

end

theorem numbersOf_eq_flatMap (nodes : List Schema) : numbersOf nodes = nodes.flatMap numbers := by
  induction nodes with
  | nil => simp [numbersOf]
  | cons node nodes ih => simp [numbersOf, ih]

theorem numbersOf_append (nodes others : List Schema) :
    numbersOf (nodes ++ others) = numbersOf nodes ++ numbersOf others := by
  simp only [numbersOf_eq_flatMap, List.flatMap_append]

/-- Whether there is nothing below a node. -/
def isLeaf : Schema → Bool
  | .absent => true
  | .type _ _ dataType => dataType.isAbsent
  | .literal .. => true
  | .identifier .. => true
  | .message .. => true
  | _ => false

theorem isGroup_of_isLeaf {node : Schema} (h : node.isLeaf = true) : node.isGroup = false := by
  cases node <;> first | rfl | simp [isLeaf] at h

/-- A result that is no group contributes itself, or nothing. -/
theorem splice_eq_or {node : Schema} (h : node.isGroup = false) :
    node.splice = [] ∨ node.splice = [node] := by
  cases node <;> simp_all [splice, isGroup]

/-- The numbers in the nodes that a result contributes are its own. -/
@[simp] theorem numbersOf_splice (node : Schema) : numbersOf node.splice = node.numbers := by
  cases node <;> simp [splice, numbers, numbersOf]

theorem numbers_subset_of_mem_splice {node item : Schema} (h : item ∈ node.splice) :
    ∀ id ∈ item.numbers, id ∈ node.numbers := by
  intro id hid
  rw [← numbersOf_splice, numbersOf_eq_flatMap]
  exact List.mem_flatMap.2 ⟨item, h, hid⟩

/-- The numbers in the nodes that results contribute are those in the results. -/
theorem numbersOf_flatMap_splice (results : List Schema) :
    numbersOf (results.flatMap splice) = numbersOf results := by
  induction results with
  | nil => rfl
  | cons result results ih =>
      rw [List.flatMap_cons, numbersOf_append, numbersOf_splice, ih, numbersOf]

/-- How often a number occurs in the first four of several nodes. -/
theorem count_numbers_getD_le (n : Int) (nodes : List Schema) :
    (nodes.getD 0 .absent).numbers.count n + (nodes.getD 1 .absent).numbers.count n
      + (nodes.getD 2 .absent).numbers.count n + (nodes.getD 3 .absent).numbers.count n
        ≤ (numbersOf nodes).count n := by
  rcases nodes with _ | ⟨r₀, _ | ⟨r₁, _ | ⟨r₂, _ | ⟨r₃, rest⟩⟩⟩⟩ <;>
    simp only [numbersOf, numbers, List.getD_cons_zero, List.getD_cons_succ, List.getD_nil,
      List.count_append, List.count_nil] <;> omega

end Schema

/-! ### Ascending blocks -/

/-- Blocks of numbers that follow one another: every number of an earlier block is smaller than
every number of a later one. -/
def Ascending (blocks : List (List Int)) : Prop :=
  blocks.Pairwise fun earlier later => ∀ x ∈ earlier, ∀ y ∈ later, x < y

namespace Ascending

theorem nil : Ascending [] := List.Pairwise.nil

theorem singleton (block : List Int) : Ascending [block] := List.pairwise_singleton ..

theorem cons_iff {block : List Int} {blocks : List (List Int)} :
    Ascending (block :: blocks) ↔
      (∀ later ∈ blocks, ∀ x ∈ block, ∀ y ∈ later, x < y) ∧ Ascending blocks :=
  List.pairwise_cons

/-- A number comes before ascending blocks. -/
theorem number_cons_iff {id : Int} {blocks : List (List Int)} :
    Ascending ([id] :: blocks) ↔ (∀ block ∈ blocks, ∀ x ∈ block, id < x) ∧ Ascending blocks := by
  simp [cons_iff]

/-- A number comes after ascending blocks. -/
theorem append_number_iff {id : Int} {blocks : List (List Int)} :
    Ascending (blocks ++ [[id]]) ↔ Ascending blocks ∧ ∀ block ∈ blocks, ∀ x ∈ block, x < id := by
  simp [Ascending, List.pairwise_append]

/-- Ascending blocks without repetitions have none together. -/
theorem nodup_flatten {blocks : List (List Int)} (h : Ascending blocks)
    (hnodup : ∀ block ∈ blocks, block.Nodup) : blocks.flatten.Nodup := by
  refine List.pairwise_flatten.2 ⟨hnodup, h.imp ?_⟩
  intro earlier later hlt x hx y hy
  exact Int.ne_of_lt (hlt x hx y hy)

end Ascending

namespace Schema

/-- Nodes of which each is ascending inside, and which are so among each other: the nodes that they
contribute to a list are ascending too. -/
theorem ascending_flatMap {f : Schema → List Schema}
    (hf : ∀ node item, item ∈ f node → ∀ id ∈ item.numbers, id ∈ node.numbers)
    {nodes : List Schema} (hinside : ∀ node ∈ nodes, Ascending ((f node).map numbers))
    (h : Ascending (nodes.map numbers)) : Ascending ((nodes.flatMap f).map numbers) := by
  rw [Ascending, List.pairwise_map] at h ⊢
  refine List.pairwise_flatMap.2 ⟨fun node hnode => List.pairwise_map.1 (hinside node hnode), ?_⟩
  refine h.imp ?_
  intro earlier later hlt item hitem item' hitem' x hx y hy
  exact hlt x (hf earlier item hitem x hx) y (hf later item' hitem' y hy)

theorem ascending_splice {nodes : List Schema}
    (hinside : ∀ node ∈ nodes, Ascending (node.splice.map numbers))
    (h : Ascending (nodes.map numbers)) : Ascending ((nodes.flatMap splice).map numbers) :=
  ascending_flatMap (fun _ _ hitem => numbers_subset_of_mem_splice hitem) hinside h

end Schema

end TeachingTree

/-
**The nodes of a type.**

A type starts with some number of vectors, around a type that is none or, if the innermost of them
has no element type, around nothing.  It is lowered to a chain of nodes: one leaf with the name of
what is inside, and a node around it for each of the vectors.  The leaf has the first number and the
vectors have the next ones, from the inside out.  The lowering of a type never stops.

The names of characters and of numbers of single precision are replaced inside vectors, and only
there.  Outside of them a number of single precision has a name by its kind, which is the same one.

Since a signature can be split, however its vectors are written, the chain of a signature has as
many vectors as it has layers, and its leaf depends on no more than the element and on whether there
is a layer at all.

Main definitions:

* `SourceType.StartsWith` — the number of vectors that a type starts with, and what is inside;
* `Lowering.vectorChain` — a leaf and the vectors around it, with their numbers;
* `Lowering.spelledName` — the name of an element by its spelling.

Main results:

* `Lowering.Site.lower_type_eq` — the chain of a name inside some number of vectors;
* `Lowering.lowerType_eq_vectorChain` — **every type is lowered to a chain of vectors around a
  leaf**;
* `Lowering.lowerType_wrapAll` — **the layers of a signature are the vectors of its type**.
-/

import TeachingTree.Proofs.Lowering.Step
import TeachingTree.Proofs.Source.Grammar
import TeachingTree.Proofs.Source.Layer

set_option relaxedAutoImplicit false
set_option autoImplicit false

namespace TeachingTree

/-! ### The vectors that a type starts with -/

namespace SourceType

/-- How many vectors a type starts with, and the type inside the innermost of them, if there is
one. -/
inductive StartsWith : SourceType → Nat → Option SourceType → Prop where
  | inner {type : SourceType} (h : type.kind ≠ .vector) : StartsWith type 0 (some type)
  | empty {shape : TypeShape} (h : shape.kind = .vector) : StartsWith (.plain shape) 1 none
  | vector {shape : TypeShape} {element : SourceType} {depth : Nat} {inside : Option SourceType}
      (h : shape.kind = .vector) (helement : StartsWith element depth inside) :
      StartsWith (.containing shape element) (depth + 1) inside

/-- Every type starts with as many vectors as its depth says. -/
theorem startsWith (type : SourceType) :
    StartsWith type type.vectorDepth type.vectorElement? := by
  induction type with
  | plain shape =>
      simp only [vectorDepth, vectorElement?]
      split
      · rename_i hkind
        exact .empty hkind
      · rename_i hkind
        exact .inner hkind
  | containing shape element ih =>
      simp only [vectorDepth, vectorElement?]
      split
      · rename_i hkind
        exact .vector hkind ih
      · rename_i hkind
        exact .inner hkind

variable {type : SourceType} {depth : Nat} {inside : Option SourceType}

/-- **There is one number of vectors that a type starts with**, and one type inside. -/
theorem startsWith_iff : type.StartsWith depth inside ↔
    depth = type.vectorDepth ∧ inside = type.vectorElement? := by
  constructor
  · intro h
    induction h with
    | @inner type h => cases type <;> exact ⟨(if_neg h).symm, (if_neg h).symm⟩
    | empty h => exact ⟨(if_pos h).symm, (if_pos h).symm⟩
    | vector h _ ih =>
        obtain ⟨hdepth, hinside⟩ := ih
        simp only [vectorDepth, vectorElement?, if_pos h]
        exact ⟨by rw [hdepth], hinside⟩
  · rintro ⟨rfl, rfl⟩
    exact type.startsWith

end SourceType

namespace Lowering

/-! ### Chains -/

/-- The chain of nodes of a leaf inside vectors.  The leaf has the first number, and the vectors
have the next ones, from the inside out. -/
def vectorChain (first : Int) (name : String) : Nat → Schema
  | 0 => .type first name .absent
  | depth + 1 => .type (first + (depth + 1)) "vector" (vectorChain first name depth)

/-- **The chain of a name inside vectors** takes one number for each of its nodes. -/
theorem Site.lower_type_eq (verbose : Bool) (name : String) (depth : Nat) (s : State) :
    (Site.type name depth).lower verbose s =
      (.ok (vectorChain s.nextId name depth), { s with nextId := s.nextId + (depth + 1) }) := by
  induction depth with
  | zero => rfl
  | succ depth ih =>
      -- the outermost vector is the last to be made, so its number is behind those of the rest
      rw [lower_type_succ, Lower.bind_apply, ih]
      simp [makeType, Lower.map_apply, vectorChain, Int.add_assoc]

theorem lowerType_apply (type : SourceType) (s : State) :
    lowerType type s = (.ok (vectorChain s.nextId (innermostName type) type.vectorDepth),
      { s with nextId := s.nextId + (type.vectorDepth + 1) }) :=
  Site.lower_type_eq false (innermostName type) type.vectorDepth s

/-! ### The name of the leaf -/

variable {type : SourceType}

/-- A type without vectors is its own inside. -/
theorem innermostName_of_some {element : SourceType} (h : type.vectorElement? = some element) :
    innermostName type = if type.vectorDepth = 0 then leafName element
      else (elementNames.lookup (Signature.stripQualifiers element.spelling.toList)).getD
        (leafName element) := by
  have hstarts := type.startsWith
  rw [innermostName]
  split
  · rename_i hzero
    rw [hzero, h] at hstarts
    cases hstarts
    rfl
  · simp only [h, elementName]

theorem innermostName_of_none (h : type.vectorElement? = none) :
    innermostName type = unknownName type.shape.typeClass "TemplateSpecialization" := by
  have hstarts := type.startsWith
  rw [innermostName, if_neg, h]
  intro hzero
  rw [hzero, h] at hstarts
  cases hstarts

/-- Inside vectors the name does not depend on the number of them. -/
theorem innermostName_containing {shape : TypeShape} (hshape : shape.kind = .vector)
    (htype : type.kind = .vector) (hinside : type.vectorElement? ≠ none) :
    innermostName (.containing shape type) = innermostName type := by
  obtain ⟨element, helement⟩ := Option.ne_none_iff_exists'.1 hinside
  have hmore : (SourceType.containing shape type).vectorElement? = some element := by
    rw [SourceType.vectorElement?, if_pos hshape, helement]
  have hdepth : type.vectorDepth ≠ 0 := by
    intro hzero
    have hstarts := type.startsWith
    rw [hzero, helement] at hstarts
    cases hstarts with
    | inner hkind => exact hkind htype
  have hdepth' : (SourceType.containing shape type).vectorDepth ≠ 0 := by
    rw [SourceType.vectorDepth, if_pos hshape]
    exact Nat.succ_ne_zero _
  rw [innermostName_of_some hmore, innermostName_of_some helement, if_neg hdepth, if_neg hdepth']

/-! ### All types -/

/-- **Every type is lowered to a chain of vectors around a leaf**, whatever the state: as many
vectors as the type starts with, and a leaf with the name of the type inside of them.  The names of
elements are replaced only if there is a vector.  One more vector around a vector is one more node
around its chain. -/
theorem lowerType_eq_vectorChain (type : SourceType) :
    ∃ depth inside name,
      (∀ depth' inside', type.StartsWith depth' inside' ↔ depth' = depth ∧ inside' = inside) ∧
      (∀ s, lowerType type s =
        (.ok (vectorChain s.nextId name depth), { s with nextId := s.nextId + (depth + 1) })) ∧
      (∀ element, inside = some element → name =
        if depth = 0 then leafName element
        else (elementNames.lookup (Signature.stripQualifiers element.spelling.toList)).getD
          (leafName element)) ∧
      (inside = none → name = unknownName type.shape.typeClass "TemplateSpecialization") ∧
      (∀ shape : TypeShape, shape.kind = .vector → type.kind = .vector → inside ≠ none → ∀ s,
        lowerType (.containing shape type) s =
          (.ok (.type (s.nextId + (depth + 1)) "vector" (vectorChain s.nextId name depth)),
            { s with nextId := s.nextId + (depth + 2) })) := by
  refine ⟨type.vectorDepth, type.vectorElement?, innermostName type,
    fun _ _ => SourceType.startsWith_iff, lowerType_apply type, fun _ => innermostName_of_some,
    innermostName_of_none, ?_⟩
  intro shape hshape htype hinside s
  have hdepth : (SourceType.containing shape type).vectorDepth = type.vectorDepth + 1 := by
    rw [SourceType.vectorDepth, if_pos hshape]
  have hnumber : ((type.vectorDepth + 1 : Nat) : Int) + 1 = type.vectorDepth + 2 := by omega
  rw [lowerType_apply, innermostName_containing hshape htype hinside, hdepth, vectorChain, hnumber]

/-! ### Signatures -/

/-- The name of an element by its spelling without qualifiers, inside vectors or not. -/
def spelledName (spelling : List Char) (inVector : Bool) : String :=
  let name := leafName (.plain (Signature.shapeOfName spelling))
  if inVector then (elementNames.lookup spelling).getD name else name

open Signature in
/-- What a signature stands for has the name of its element. -/
theorem innermostName_inVectors (cs : List Char) (depth : Nat) :
    innermostName (.inVectors depth (.ofName (String.ofList (stripQualifiers cs)))) =
      spelledName (stripQualifiers cs) (0 < depth) := by
  have hkind := SourceType.kind_ofName_ne_vector (String.ofList (stripQualifiers cs))
  obtain ⟨hdepth, hinside⟩ := SourceType.vectorDepth_inVectors hkind depth
  have helement : SourceType.ofName (String.ofList (stripQualifiers cs)) =
      .plain (shapeOfName (stripQualifiers cs)) := by
    rw [SourceType.ofName, String.toList_ofList, stripQualifiers_stripQualifiers]
  rw [innermostName_of_some hinside, hdepth, helement, SourceType.spelling, SourceType.shape,
    spelling_shapeOfName, String.toList_ofList, stripQualifiers_stripQualifiers, spelledName]
  cases depth with
  | zero => rfl
  | succ depth => simp

/-- Only characters have another name inside of vectors than outside. -/
example : ["char", "float", "bool"].map (fun name =>
    (spelledName name.toList true, spelledName name.toList false)) =
    [("string", "int"), ("double", "double"), ("bool", "bool")] := by decide +kernel

open Signature in
/-- **The layers of a signature are the vectors of its type.**  Around a closed element that has no
layer itself there may be any layers, however they are written: splitting takes them off, and the
type of the signature is lowered to as many vectors around a leaf.  The name of the leaf depends on
the element without its qualifiers and on whether there is a layer. -/
theorem lowerType_wrapAll {element : List Char} (helement : IsClosed element)
    (hdepth : (splitContainer element).1 = 0) (layers : List Layer) :
    splitContainer (wrapAll layers element) = (layers.length, stripQualifiers element) ∧
      ∀ s, lowerType (.ofSignature (String.ofList (wrapAll layers element))) s =
        (.ok (vectorChain s.nextId (spelledName (stripQualifiers element) (0 < layers.length))
            layers.length), { s with nextId := s.nextId + (layers.length + 1) }) := by
  have hsplit := splitContainer_wrapAll helement hdepth layers
  refine ⟨hsplit, ?_⟩
  intro s
  have hkind := SourceType.kind_ofName_ne_vector (String.ofList (stripQualifiers element))
  have htype : SourceType.ofSignature (String.ofList (wrapAll layers element)) =
      .inVectors layers.length (.ofName (String.ofList (stripQualifiers element))) := by
    rw [SourceType.ofSignature, String.toList_ofList, hsplit]
  rw [htype, lowerType_apply, innermostName_inVectors,
    (SourceType.vectorDepth_inVectors hkind layers.length).1]

open Signature in
/-- Characters inside two layers that are written in different ways. -/
theorem lowerType_wrapAll_qualified :
    let signature := "const class std::__1::vector <vector<char>, std::allocator<vector<int>> >"
    IsClosed "char".toList ∧ (splitContainer "char".toList).1 = 0 ∧
      splitContainer signature.toList = (2, "char".toList) ∧
      lowerType (.ofSignature signature) {} =
        (.ok (.type 2 "vector" (.type 1 "vector" (.type 0 "string" .absent))),
          { nextId := 3 }) := by
  have hclosed : IsClosed "char".toList := by decide
  have hdepth : (splitContainer "char".toList).1 = 0 := by decide +kernel
  obtain ⟨hsplit, htype⟩ := lowerType_wrapAll hclosed hdepth [.qualified, .bare]
  have htext : wrapAll [.qualified, .bare] "char".toList =
      "const class std::__1::vector <vector<char>, std::allocator<vector<int>> >".toList := rfl
  have hname : stripQualifiers "char".toList = "char".toList := by decide +kernel
  rw [htext, hname] at hsplit htype
  exact ⟨hclosed, hdepth, hsplit, htype {}⟩

end Lowering

end TeachingTree

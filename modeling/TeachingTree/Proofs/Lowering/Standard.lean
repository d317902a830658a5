/-
**Which documents are standard JSON.**

The numbers of a document are those of its nodes, which are integers, and those of its literals.
Its text is thus standard JSON exactly if the numbers of all its literals are finite.  The literals
of a document are those of its program, so that this can be told from the source tree: nothing on
the way to the text replaces a number that is not finite.

Such numbers do come up.  A decimal literal beyond the largest finite number is read as infinite if
the parser has not computed its value, while a hexadecimal one is refused.

Main definitions:

* `Leaf.isStandard` — literals whose numbers are finite.

Main results:

* `Schema.isStandard_toJson` — the numbers of a tree are those of its literals;
* `isStandard_text` — when the text of a tree is standard JSON;
* `isStandard_documentText` — **the text of the document of a program is standard JSON exactly if
  the numbers of all literals of the program are finite**.
-/

import TeachingTree.Proofs.Building.Faults
import TeachingTree.Proofs.Json.Standard
import TeachingTree.Proofs.Lowering.Leaves
import TeachingTree.Proofs.Schema.Text

set_option relaxedAutoImplicit false
set_option autoImplicit false

namespace TeachingTree

/-- Whether all the numbers in the JSON value of a literal are finite. -/
def Leaf.isStandard : Leaf → Bool
  | .literal _ _ value => value.toJson.isStandard
  | _ => true

/-- A success of two actions in a row. -/
theorem exists_of_bind_eq_ok {ε α β : Type} {x : Except ε α} {f : α → Except ε β} {r : β}
    (h : x >>= f = .ok r) : ∃ a, x = .ok a ∧ f a = .ok r := by
  cases x with
  | error e => cases h
  | ok a => exact ⟨a, rfl, h⟩

namespace Schema

/-! ### Numbers of trees -/

section Tables

-- the tables of the JSON values, which in this section stand for single nodes only
attribute [local simp] toJson toJsonList typed placed Json.isStandard Json.areStandard
  Json.membersAreStandard pick pickAll leaf? Leaf.isStandard

/-- A member that is left out would have no numbers. -/
theorem membersAreStandard_optionalMember (key : String) {place : Schema} {value : Json}
    (h : place.toJson = .ok value) :
    Json.membersAreStandard (optionalMember key place value) = value.isStandard := by
  rw [optionalMember]
  split
  · rename_i habsent
    obtain rfl : place = .absent := by cases place <;> simp_all [isAbsent]
    obtain rfl : Json.null = value := by simpa using h
    rfl
  · simp

mutual

/-- **The numbers of a tree are those of its literals**, apart from integers. -/
theorem isStandard_toJson {tree : Schema} {value : Json} (h : tree.toJson = .ok value) :
    value.isStandard = (tree.pick leaf?).all Leaf.isStandard := by
  cases tree with
  | absent =>
      obtain rfl := Except.ok.inj h
      rfl
  | foreign className => cases h
  | group items =>
      obtain ⟨xs, hxs, h⟩ := exists_of_bind_eq_ok h
      obtain rfl := Except.ok.inj h
      simp [areStandard_toJsonList hxs]
  | type id name dataType =>
      obtain ⟨t, ht, h⟩ := exists_of_bind_eq_ok h
      obtain rfl := Except.ok.inj h
      simp [membersAreStandard_optionalMember _ ht, isStandard_toJson ht]
  | literal id position kind value =>
      obtain rfl := Except.ok.inj h
      simp
  | identifier id position name =>
      obtain rfl := Except.ok.inj h
      simp
  | message id position kind tag description =>
      obtain rfl := Except.ok.inj h
      simp
  | unary id position opcode expression =>
      obtain ⟨x, hx, h⟩ := exists_of_bind_eq_ok h
      obtain rfl := Except.ok.inj h
      simp [isStandard_toJson hx]
  | binary id position opcode left right =>
      obtain ⟨l, hl, h⟩ := exists_of_bind_eq_ok h
      obtain ⟨r, hr, h⟩ := exists_of_bind_eq_ok h
      obtain rfl := Except.ok.inj h
      simp [isStandard_toJson hl, isStandard_toJson hr]
  | call id position name arguments =>
      obtain ⟨xs, hxs, h⟩ := exists_of_bind_eq_ok h
      obtain rfl := Except.ok.inj h
      simp [areStandard_toJsonList hxs]
  | block id statements =>
      obtain ⟨xs, hxs, h⟩ := exists_of_bind_eq_ok h
      obtain rfl := Except.ok.inj h
      simp [areStandard_toJsonList hxs]
  | conditional id position condition thenBlock elseBlock =>
      obtain ⟨c, hc, h⟩ := exists_of_bind_eq_ok h
      obtain ⟨t, ht, h⟩ := exists_of_bind_eq_ok h
      obtain ⟨e, he, h⟩ := exists_of_bind_eq_ok h
      obtain rfl := Except.ok.inj h
      simp [membersAreStandard_optionalMember _ he, isStandard_toJson hc, isStandard_toJson ht,
        isStandard_toJson he]
  | whileLoop id position condition body =>
      obtain ⟨c, hc, h⟩ := exists_of_bind_eq_ok h
      obtain ⟨b, hb, h⟩ := exists_of_bind_eq_ok h
      obtain rfl := Except.ok.inj h
      simp [isStandard_toJson hc, isStandard_toJson hb]
  | forLoop id position init condition post body =>
      obtain ⟨i, hi, h⟩ := exists_of_bind_eq_ok h
      obtain ⟨c, hc, h⟩ := exists_of_bind_eq_ok h
      obtain ⟨p, hp, h⟩ := exists_of_bind_eq_ok h
      obtain ⟨b, hb, h⟩ := exists_of_bind_eq_ok h
      obtain rfl := Except.ok.inj h
      simp [isStandard_toJson hi, isStandard_toJson hc, isStandard_toJson hp,
        isStandard_toJson hb]
  | returned id position expression =>
      obtain ⟨x, hx, h⟩ := exists_of_bind_eq_ok h
      obtain rfl := Except.ok.inj h
      simp [isStandard_toJson hx]
  | var id position name dataType isReference isConst init isParameter =>
      obtain ⟨t, ht, h⟩ := exists_of_bind_eq_ok h
      obtain ⟨i, hi, h⟩ := exists_of_bind_eq_ok h
      obtain rfl := Except.ok.inj h
      cases isParameter <;>
        simp [membersAreStandard_optionalMember _ hi, isStandard_toJson ht, isStandard_toJson hi]
  | field id position name dataType =>
      obtain ⟨t, ht, h⟩ := exists_of_bind_eq_ok h
      obtain rfl := Except.ok.inj h
      simp [isStandard_toJson ht]
  | function id position name returnType parameters body =>
      obtain ⟨t, ht, h⟩ := exists_of_bind_eq_ok h
      obtain ⟨ps, hps, h⟩ := exists_of_bind_eq_ok h
      obtain ⟨b, hb, h⟩ := exists_of_bind_eq_ok h
      obtain rfl := Except.ok.inj h
      simp [isStandard_toJson ht, areStandard_toJsonList hps, isStandard_toJson hb]
  | struct id position name attributes =>
      obtain ⟨xs, hxs, h⟩ := exists_of_bind_eq_ok h
      obtain rfl := Except.ok.inj h
      simp [areStandard_toJsonList hxs]
  | document id statements =>
      obtain ⟨xs, hxs, h⟩ := exists_of_bind_eq_ok h
      obtain rfl := Except.ok.inj h
      simp [areStandard_toJsonList hxs]

theorem areStandard_toJsonList {trees : List Schema} {values : List Json}
    (h : toJsonList trees = .ok values) :
    Json.areStandard values = (pickAll leaf? trees).all Leaf.isStandard := by
  cases trees with
  | nil =>
      obtain rfl := Except.ok.inj h
      rfl
  | cons tree trees =>
      obtain ⟨x, hx, h⟩ := exists_of_bind_eq_ok h
      obtain ⟨xs, hxs, h⟩ := exists_of_bind_eq_ok h
      obtain rfl := Except.ok.inj h
      simp [isStandard_toJson hx, areStandard_toJsonList hxs]

end

end Tables

/-- The text of a tree is standard JSON exactly if the numbers of its literals are finite. -/
theorem isStandard_text {tree : Schema} {room : Nat} {indent : Option Int} {text : String}
    (h : tree.documentText room indent = .ok text) :
    JsonText.IsStandard text ↔ ∀ leaf ∈ tree.leaves, leaf.isStandard = true := by
  obtain ⟨value, hvalue, -⟩ := exists_of_bind_eq_ok h
  have hjson : tree.toJson = .ok value := by
    cases hj : tree.toJson with
    | error e => simp [hj, Except.mapError] at hvalue
    | ok x => simpa [hj, Except.mapError] using hvalue
  obtain ⟨-, hfault, rfl⟩ := (documentText_eq_ok_iff hjson).1 h
  rw [JsonText.isStandard_render hfault, isStandard_toJson hjson, List.all_eq_true]
  rfl

end Schema

namespace Lowering

/-! ### Programs -/

/-- **Which documents are standard JSON.**  If a program has a document, and the document has a text
with some indentation, then the text is accepted by the standard grammar exactly if the numbers of
all literals of the program are finite. -/
theorem isStandard_documentText {verbose : Bool} {decls : List Node} {document : Schema}
    {room : Nat} {indent : Option Int} {text : String}
    (h : (lowerProgram verbose decls).1 = .ok document)
    (htext : document.documentText room indent = .ok text) :
    JsonText.IsStandard text ↔ ∀ leaf ∈ (Site.unit decls).leaves, leaf.isStandard = true := by
  rw [← leaves_of_lowerProgram verbose decls document h]
  exact Schema.isStandard_text htext

/-- The source tree of the declaration `double x = 1e400;`. -/
def hugeProgram : List Node :=
  [.var (.mk
    { name := "x", type := .plain { kind := .floating, spelling := "double" },
      initStyle := some .assigned, position := ⟨1, 8⟩ }
    (.floating (.infinite false) ⟨1, 12⟩))]

/-- The document of this declaration. -/
def hugeDocument : Schema :=
  .document 0
    [.var 1 ⟨1, 8⟩ "x" (.type 2 "double" .absent) false false
      (.literal 3 ⟨1, 12⟩ "double" (.floating (.infinite false))) false]

theorem exists_text_hugeDocument :
    ∃ text, hugeDocument.documentText 4096 (some 4) = .ok text := by
  obtain ⟨value, hvalue, hfault⟩ :
      ∃ value, hugeDocument.toJson = .ok value ∧ value.fault? = none :=
    ⟨_, rfl, by decide +kernel⟩
  exact ⟨_, (Schema.documentText_eq_ok_iff hvalue).2 ⟨by decide +kernel, hfault, rfl⟩⟩

theorem isStandard_hugeDocument :
    (lowerProgram false hugeProgram).1 = .ok hugeDocument ∧
      ∃ text, hugeDocument.documentText 4096 (some 4) = .ok text ∧
        (JsonText.IsStandard text ↔
          ∀ leaf ∈ (Site.unit hugeProgram).leaves, leaf.isStandard = true) := by
  have hlower : (lowerProgram false hugeProgram).1 = .ok hugeDocument := rfl
  obtain ⟨text, htext⟩ := exists_text_hugeDocument
  exact ⟨hlower, text, htext, isStandard_documentText hlower htext⟩

/-- A decimal literal whose value the parser has not computed: the text of the document holds an
infinite number. -/
theorem exists_document_not_standard :
    ((SourceFile.numberFile "1e400").read .empty {} {} none false "main.cpp").outcome =
        .ok hugeProgram ∧
      (lowerProgram false hugeProgram).1 = .ok hugeDocument ∧
      ∃ text, hugeDocument.documentText 4096 (some 4) = .ok text ∧ ¬JsonText.IsStandard text := by
  obtain ⟨text, htext⟩ := exists_text_hugeDocument
  refine ⟨by with_unfolding_all rfl, rfl, text, htext, ?_⟩
  rw [Schema.isStandard_text htext]
  intro hall
  have hinfinite : Leaf.literal ⟨1, 12⟩ "double" (.floating (.infinite false)) ∈
      hugeDocument.leaves := List.mem_singleton_self _
  exact absurd (hall _ hinfinite) (by decide)

end Lowering

end TeachingTree

/-
**The text of a tree.**

The JSON value of a tree has objects whose keys are different, and texts of characters; so its text
denotes it, in every layout.  The places of the tree may hold anything for that, as long as it is
part of the schema.

Not every such tree has a text in every layout.  An indentation has to be a count for which there is
room in memory, and no integer may be too long to be written.  The theorem says that nothing else
stands in the way.

Main definitions:

* `Constant.isPlain` — truth values, numbers and texts of characters;
* `JsonText.integers` — the integers of a value.

Main results:

* `JsonText.fault?_eq_none_iff` — a value is written if its integers can be;
* `Schema.All.hasForm` — trees of the schema have a JSON value, and that has a form;
* `Schema.read_documentText` — **the text of a tree denotes its JSON value**, and it exists unless
  the indentation or an integer is out of bounds.
-/

import TeachingTree.Proofs.Json.RoundTrip
import TeachingTree.Proofs.Schema.All
import TeachingTree.Schema.Document

set_option relaxedAutoImplicit false
set_option autoImplicit false

namespace TeachingTree

/-! ### Integers of a value -/

namespace JsonText

mutual

/-- The integers of a value, in the order of the text. -/
def integers : Json → List Int
  | .integer n => [n]
  | .array items => integersOfItems items
  | .object members => integersOfMembers members
  | _ => []

/-- The integers of values in order. -/
def integersOfItems : List Json → List Int
  | [] => []
  | item :: items => integers item ++ integersOfItems items

/-- The integers of members in order. -/
def integersOfMembers : List (String × Json) → List Int
  | [] => []
  | (_, value) :: members => integers value ++ integersOfMembers members

end

/-- A value is written exactly if its integers can be. -/
def Writes (value : Json) : Prop :=
  value.fault? = none ↔ ∀ n ∈ integers value, fitsDigits n = true

theorem faultOfItems?_eq_none_iff {items : List Json} (h : ∀ item ∈ items, Writes item) :
    Json.faultOfItems? items = none ↔ ∀ n ∈ integersOfItems items, fitsDigits n = true := by
  induction items with
  | nil => simp [Json.faultOfItems?, integersOfItems]
  | cons item items ih =>
      have hitem : item.fault? = none ↔ _ := h item (List.mem_cons_self ..)
      have hitems := ih fun other hother => h other (List.mem_cons_of_mem _ hother)
      rw [Json.faultOfItems?, Option.or_eq_none_iff, hitem, hitems, integersOfItems,
        List.forall_mem_append]

theorem faultOfMembers?_eq_none_iff {members : List (String × Json)}
    (h : ∀ member ∈ members, Writes member.2) :
    Json.faultOfMembers? members = none ↔
      ∀ n ∈ integersOfMembers members, fitsDigits n = true := by
  induction members with
  | nil => simp [Json.faultOfMembers?, integersOfMembers]
  | cons member members ih =>
      have hmember : member.2.fault? = none ↔ _ := h member (List.mem_cons_self ..)
      have hmembers := ih fun other hother => h other (List.mem_cons_of_mem _ hother)
      rw [Json.faultOfMembers?, Option.or_eq_none_iff, hmember, hmembers, integersOfMembers,
        List.forall_mem_append]

/-- **A value that has a form is written if its integers can be**, and only then. -/
theorem fault?_eq_none_iff {value : Json} (h : Plain value) : Writes value := by
  induction h with
  | integer n => simp [Writes, Json.fault?, integers]
  | array _ ih =>
      rw [Writes, Json.fault?, integers]
      exact faultOfItems?_eq_none_iff ih
  | object _ _ ih =>
      rw [Writes, Json.fault?, integers]
      exact faultOfMembers?_eq_none_iff ih
  | _ => simp [Writes, Json.fault?, integers]

end JsonText

/-! ### Nodes of the schema -/

/-- Whether a value is a truth value, a number, or a text of characters. -/
def Constant.isPlain : Constant → Bool
  | .bool _ => true
  | .integer _ => true
  | .floating _ => true
  | .text points => (Text.CodePoint.string? points).isSome
  | _ => false

namespace Schema

open JsonText (Plain)

theorem plain_toJson_of_isPlain {value : Constant} (h : value.isPlain = true) :
    Plain value.toJson := by
  cases value with
  | bool b => exact .bool b
  | integer n => exact .integer n
  | floating x => exact .floating x
  | text points =>
      obtain ⟨s, hs⟩ := Option.isSome_iff_exists.1 h
      rw [Constant.toJson, Json.ofPoints, hs]
      exact .text s
  | _ => simp [Constant.isPlain] at h

/-- A place has a JSON value, and that has a form. -/
def HasForm (place : Schema) : Prop := ∃ value, place.toJson = .ok value ∧ Plain value

theorem exists_plain_toJsonList {nodes : List Schema} (h : ∀ node ∈ nodes, node.HasForm) :
    ∃ values, toJsonList nodes = .ok values ∧ Plain (.array values) := by
  induction nodes with
  | nil => exact ⟨[], rfl, .array (by simp)⟩
  | cons node nodes ih =>
      obtain ⟨value, hvalue, hplain⟩ := h node (List.mem_cons_self ..)
      obtain ⟨values, hvalues, hrest⟩ :=
        ih fun other hother => h other (List.mem_cons_of_mem _ hother)
      refine ⟨value :: values, by rw [toJsonList, hvalue, hvalues]; rfl, .array ?_⟩
      cases hrest with
      | array hitems => exact List.forall_mem_cons.2 ⟨hplain, hitems⟩

/-- A member that may be left out has a key of its own, if the others have other keys. -/
theorem plain_optionalMember {members : List (String × Json)} (h : Plain (.object members))
    {key : String} (hkey : key ∉ members.map Prod.fst) (place : Schema) {value : Json}
    (hvalue : Plain value) : Plain (.object (members ++ optionalMember key place value)) := by
  cases h with
  | object hkeys hmembers =>
      rw [optionalMember]
      split
      · rw [List.append_nil]
        exact .object hkeys hmembers
      · refine .object ?_ (List.forall_mem_append.2 ⟨hmembers, by simpa using hvalue⟩)
        rw [List.map_append, List.map_singleton, List.nodup_append]
        refine ⟨hkeys, by simp, ?_⟩
        rintro a ha b hb rfl
        rw [List.mem_singleton.1 hb] at ha
        exact hkey ha

/-- **Trees of the schema have a JSON value**, and that has a form. -/
theorem All.hasForm {tree : Schema} (h : tree.All (IsNode (·.isPlain = true))) : tree.HasForm := by
  induction h with
  | absent => exact ⟨.null, rfl, .null⟩
  | group _ ih =>
      obtain ⟨values, hvalues, hplain⟩ := exists_plain_toJsonList ih
      exact ⟨.array values, by rw [toJson, hvalues]; rfl, hplain⟩
  | foreign h => exact h.elim
  | @type id name dataType _ _ ih =>
      obtain ⟨t, ht, hplain⟩ := ih
      refine ⟨_, by rw [toJson, ht]; rfl, plain_optionalMember ?_ (by simp) dataType hplain⟩
      exact .object (by simp) (by simp [Plain.integer, Plain.text])
  | literal h =>
      refine ⟨_, rfl, .object (by simp [typed, placed]) ?_⟩
      simp [typed, placed, Plain.integer, Plain.text, plain_toJson_of_isPlain h]
  | identifier =>
      refine ⟨_, rfl, .object (by simp [typed, placed]) ?_⟩
      simp [typed, placed, Plain.integer, Plain.text]
  | message =>
      refine ⟨_, rfl, .object (by simp [typed, placed]) ?_⟩
      simp [typed, placed, Plain.integer, Plain.text]
  | unary _ _ ih =>
      obtain ⟨x, hx, hplain⟩ := ih
      refine ⟨_, by rw [toJson, hx]; rfl, .object (by simp [typed, placed]) ?_⟩
      simp [typed, placed, Plain.integer, Plain.text, hplain]
  | binary _ _ _ ihl ihr =>
      obtain ⟨l, hl, hplainl⟩ := ihl
      obtain ⟨r, hr, hplainr⟩ := ihr
      refine ⟨_, by rw [toJson, hl, hr]; rfl, .object (by simp [typed, placed]) ?_⟩
      simp [typed, placed, Plain.integer, Plain.text, hplainl, hplainr]
  | call _ _ ih =>
      obtain ⟨xs, hxs, hplain⟩ := exists_plain_toJsonList ih
      refine ⟨_, by rw [toJson, hxs]; rfl, .object (by simp [typed, placed]) ?_⟩
      simp [typed, placed, Plain.integer, Plain.text, hplain]
  | block _ _ ih =>
      obtain ⟨xs, hxs, hplain⟩ := exists_plain_toJsonList ih
      refine ⟨_, by rw [toJson, hxs]; rfl, .object (by simp) ?_⟩
      simp [Plain.integer, hplain]
  | @conditional id position condition thenBlock elseBlock _ _ _ _ ihc iht ihe =>
      obtain ⟨c, hc, hplainc⟩ := ihc
      obtain ⟨t, ht, hplaint⟩ := iht
      obtain ⟨e, he, hplaine⟩ := ihe
      refine ⟨_, by rw [toJson, hc, ht, he]; rfl,
        plain_optionalMember ?_ (by simp [typed, placed]) elseBlock hplaine⟩
      exact .object (by simp [typed, placed])
        (by simp [typed, placed, Plain.integer, Plain.text, hplainc, hplaint])
  | whileLoop _ _ _ ihc ihb =>
      obtain ⟨c, hc, hplainc⟩ := ihc
      obtain ⟨b, hb, hplainb⟩ := ihb
      refine ⟨_, by rw [toJson, hc, hb]; rfl, .object (by simp [typed, placed]) ?_⟩
      simp [typed, placed, Plain.integer, Plain.text, hplainc, hplainb]
  | forLoop _ _ _ _ _ ihi ihc ihp ihb =>
      obtain ⟨i, hi, hplaini⟩ := ihi
      obtain ⟨c, hc, hplainc⟩ := ihc
      obtain ⟨p, hp, hplainp⟩ := ihp
      obtain ⟨b, hb, hplainb⟩ := ihb
      refine ⟨_, by rw [toJson, hi, hc, hp, hb]; rfl, .object (by simp [typed, placed]) ?_⟩
      simp [typed, placed, Plain.integer, Plain.text, hplaini, hplainc, hplainp, hplainb]
  | returned _ _ ih =>
      obtain ⟨x, hx, hplain⟩ := ih
      refine ⟨_, by rw [toJson, hx]; rfl, .object (by simp [typed, placed]) ?_⟩
      simp [typed, placed, Plain.integer, Plain.text, hplain]
  | @var id position name dataType init isReference isConst isParameter _ _ _ iht ihi =>
      obtain ⟨t, ht, hplaint⟩ := iht
      obtain ⟨i, hi, hplaini⟩ := ihi
      refine ⟨_, by rw [toJson, ht, hi]; rfl, plain_optionalMember ?_ ?_ init hplaini⟩
      · refine .object ?_ ?_ <;> cases isParameter <;>
          simp [typed, placed, Plain.integer, Plain.text, Plain.bool, hplaint]
      · cases isParameter <;> simp [typed, placed]
  | field _ _ ih =>
      obtain ⟨t, ht, hplain⟩ := ih
      refine ⟨_, by rw [toJson, ht]; rfl, .object (by simp [placed]) ?_⟩
      simp [placed, Plain.integer, Plain.text, hplain]
  | function _ _ _ _ iht ihp ihb =>
      obtain ⟨t, ht, hplaint⟩ := iht
      obtain ⟨ps, hps, hplainps⟩ := exists_plain_toJsonList ihp
      obtain ⟨b, hb, hplainb⟩ := ihb
      refine ⟨_, by rw [toJson, ht, hps, hb]; rfl, .object (by simp [typed, placed]) ?_⟩
      simp [typed, placed, Plain.integer, Plain.text, hplaint, hplainps, hplainb]
  | struct _ _ ih =>
      obtain ⟨xs, hxs, hplain⟩ := exists_plain_toJsonList ih
      refine ⟨_, by rw [toJson, hxs]; rfl, .object (by simp [typed, placed]) ?_⟩
      simp [typed, placed, Plain.integer, Plain.text, hplain]
  | document _ _ ih =>
      obtain ⟨xs, hxs, hplain⟩ := exists_plain_toJsonList ih
      refine ⟨_, by rw [toJson, hxs]; rfl, .object (by simp) ?_⟩
      simp [Plain.integer, hplain]

/-! ### Texts -/

/-- A node has a text exactly if its JSON value is written. -/
theorem documentText_eq_ok_iff {node : Schema} {value : Json} (h : node.toJson = .ok value)
    {room : Nat} {indent : Option Int} {text : String} :
    node.documentText room indent = .ok text ↔
      Json.checkIndent room indent = .ok () ∧ value.fault? = none ∧ value.render indent = text := by
  have hwrite : node.documentText room indent = (value.write room indent).mapError .text := by
    rw [documentText, h]
    rfl
  rw [hwrite, ← Json.write_eq_ok_iff]
  cases value.write room indent <;> simp [Except.mapError]

/-- **The text of a tree denotes its JSON value**, whatever the indentation, so that the texts in
all layouts denote the same.  There is a text unless the indentation or an integer is out of
bounds. -/
theorem read_documentText {tree : Schema} (h : tree.All (IsNode (·.isPlain = true))) :
    ∃ value, tree.toJson = .ok value ∧
      (∀ room indent, (∃ text, tree.documentText room indent = .ok text) ↔
        Json.checkIndent room indent = .ok () ∧
          ∀ n ∈ JsonText.integers value, fitsDigits n = true) ∧
      ∀ room indent text, tree.documentText room indent = .ok text →
        JsonText.read text = some (JsonText.datum value) := by
  obtain ⟨value, hvalue, hplain⟩ := h.hasForm
  refine ⟨value, hvalue, fun room indent => ?_, fun room indent text htext => ?_⟩
  · have hfault : value.fault? = none ↔ _ := JsonText.fault?_eq_none_iff hplain
    simp only [documentText_eq_ok_iff hvalue, hfault]
    constructor
    · rintro ⟨text, hindent, hintegers, -⟩
      exact ⟨hindent, hintegers⟩
    · rintro ⟨hindent, hintegers⟩
      exact ⟨_, hindent, hintegers, rfl⟩
  · obtain ⟨-, -, hrender⟩ := (documentText_eq_ok_iff hvalue).1 htext
    rw [← hrender]
    exact JsonText.read_render hplain indent

/-- A text with all that has to be escaped, and a number beside an empty list. -/
theorem read_documentText_quotes :
    let tree : Schema := .document 0 [
      .literal 1 ⟨1, 2⟩ "string" (.ofString "\"\\\n\x01é"),
      .literal 2 ⟨1, 3⟩ "double" (.floating (Binary64.ofDecimal true 15 (-1))),
      .block 3 []]
    tree.All (IsNode (·.isPlain = true)) ∧ ∃ value, tree.toJson = .ok value ∧
      (∀ room indent, (∃ text, tree.documentText room indent = .ok text) ↔
        Json.checkIndent room indent = .ok () ∧
          ∀ n ∈ JsonText.integers value, fitsDigits n = true) ∧
      ∀ room indent text, tree.documentText room indent = .ok text →
        JsonText.read text = some (JsonText.datum value) := by
  have hall : (Schema.document 0 [
      .literal 1 ⟨1, 2⟩ "string" (.ofString "\"\\\n\x01é"),
      .literal 2 ⟨1, 3⟩ "double" (.floating (Binary64.ofDecimal true 15 (-1))),
      .block 3 []]).All (IsNode (·.isPlain = true)) := by
    refine .document trivial ?_
    simp only [List.forall_mem_cons, List.not_mem_nil, false_imp_iff, implies_true, and_true]
    exact ⟨.literal (by simp [IsNode, Constant.isPlain, Constant.ofString]), .literal rfl,
      .block trivial (by simp)⟩
  exact ⟨hall, read_documentText hall⟩

/-- An indentation beyond all counts has no text, although it would not indent anything. -/
theorem documentText_indentRange :
    (Schema.document 0 []).All (IsNode (·.isPlain = true)) ∧
      (Schema.document 0 []).documentText 4096 (some (-9223372036854775809)) =
        .error (.text .indentRange) :=
  ⟨.document trivial (by simp), by decide⟩

end Schema

end TeachingTree

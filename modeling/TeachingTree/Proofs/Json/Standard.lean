/-
**Which written values are standard JSON.**

The reader of `TeachingTree/Proofs/Json/Reading.lean` accepts three names that the standard grammar
does not have: those of the floating-point numbers that are not finite.  A text is *standard* if it
can be read and none of its tokens is such a name; between quotes the names do no harm.

Whether a written value is standard can be told from the value.  It is written as a row of tokens
that the machine accepts, whatever the keys of its objects are, and the only tokens that may not be
standard are its numbers.  Texts with halves of surrogate pairs need a word: they are written like
the texts of the characters that they join to.

Main definitions:

* `JsonText.IsStandard` — texts that the standard grammar accepts;
* `Json.isStandard` — values all whose numbers are finite;
* `JsonText.settle` — a value with texts of characters only.

Main results:

* `JsonText.renderAt_settle`, `JsonText.formed_settle` — values that are written have the text of a
  value that has a form;
* `JsonText.all_isStandard_tokensOf` — the tokens of a value are standard if its numbers are finite;
* `JsonText.isStandard_render` — **a written value is standard JSON exactly if its numbers are
  finite**.
-/

import TeachingTree.Proofs.Json.RoundTrip

set_option relaxedAutoImplicit false
set_option autoImplicit false

namespace TeachingTree

/-- Whether a floating-point number is finite. -/
def Binary64.isFinite : Binary64 → Bool
  | .finite _ _ => true
  | .infinite _ => false
  | .nan => false

namespace Json

mutual

/-- Whether all the numbers of a value are finite. -/
def isStandard : Json → Bool
  | .floating x => x.isFinite
  | .array items => areStandard items
  | .object members => membersAreStandard members
  | _ => true

/-- Whether all the numbers of values are finite. -/
def areStandard : List Json → Bool
  | [] => true
  | item :: items => isStandard item && areStandard items

/-- Whether all the numbers of members are finite. -/
def membersAreStandard : List (String × Json) → Bool
  | [] => true
  | (_, value) :: members => isStandard value && membersAreStandard members

end

end Json

namespace JsonText

open Json (Layout renderAt renderItems renderMembers fault? faultOfItems? faultOfMembers?)
open Text (CodePoint)

/-! ### Standard texts -/

/-- The names of numbers that the standard grammar does not have. -/
def looseNames : List String := ["NaN", "Infinity", "-Infinity"]

/-- Whether the standard grammar has a token. -/
def Token.isStandard : Token → Bool
  | .word (.number text) => !looseNames.contains text
  | _ => true

/-- **Texts that the standard grammar accepts**: they can be read, and no token is the name of a
number that is not finite. -/
def IsStandard (text : String) : Prop :=
  (read text).isSome = true ∧
    ∃ tokens, tokens? text.toList = some tokens ∧ tokens.all Token.isStandard = true

/-! ### Texts of characters -/

mutual

/-- A value with texts of characters only: a text that holds halves of pairs is joined. -/
def settle : Json → Json
  | .points value => .text (String.ofList (CodePoint.join value))
  | .array items => .array (settleItems items)
  | .object members => .object (settleMembers members)
  | value => value

/-- Values with texts of characters only, in order. -/
def settleItems : List Json → List Json
  | [] => []
  | item :: items => settle item :: settleItems items

/-- Members with texts of characters only, in order. -/
def settleMembers : List (String × Json) → List (String × Json)
  | [] => []
  | (key, value) :: members => (key, settle value) :: settleMembers members

end

mutual

/-- A settled value has the same text. -/
theorem renderAt_settle (layout : Layout) (level : Nat) (value : Json) :
    renderAt layout level (settle value) = renderAt layout level value := by
  cases value with
  | points value => rfl
  | array items =>
      cases items with
      | nil => rfl
      | cons item items =>
          rw [settle, settleItems, renderAt, renderAt_settle layout (level + 1) item,
            renderItems_settle layout (level + 1) items, renderAt]
  | object members =>
      cases members with
      | nil => rfl
      | cons member members =>
          obtain ⟨key, value⟩ := member
          rw [settle, settleMembers, renderAt, renderAt_settle layout (level + 1) value,
            renderMembers_settle layout (level + 1) members, renderAt]
  | _ => rfl

theorem renderItems_settle (layout : Layout) (level : Nat) (items : List Json) :
    renderItems layout level (settleItems items) = renderItems layout level items := by
  cases items with
  | nil => rfl
  | cons item items =>
      rw [settleItems, renderItems, renderAt_settle layout level item,
        renderItems_settle layout level items, renderItems]

theorem renderMembers_settle (layout : Layout) (level : Nat) (members : List (String × Json)) :
    renderMembers layout level (settleMembers members) = renderMembers layout level members := by
  cases members with
  | nil => rfl
  | cons member members =>
      obtain ⟨key, value⟩ := member
      rw [settleMembers, renderMembers, renderAt_settle layout level value,
        renderMembers_settle layout level members, renderMembers]

end

mutual

/-- What is written has a form when it is settled. -/
theorem formed_settle {value : Json} (h : fault? value = none) : Formed (settle value) := by
  cases value with
  | null => exact .null
  | bool b => exact .bool b
  | integer n => exact .integer n
  | floating x => exact .floating x
  | text s => exact .text s
  | points value => exact .text _
  | array items => exact .array (formed_settleItems h)
  | object members => exact .object (formed_settleMembers h)
  | refused reason => simp [fault?] at h

theorem formed_settleItems {items : List Json} (h : faultOfItems? items = none) :
    ∀ item ∈ settleItems items, Formed item := by
  cases items with
  | nil => simp [settleItems]
  | cons item items =>
      obtain ⟨hitem, hitems⟩ := Option.or_eq_none_iff.1 h
      exact List.forall_mem_cons.2 ⟨formed_settle hitem, formed_settleItems hitems⟩

theorem formed_settleMembers {members : List (String × Json)}
    (h : faultOfMembers? members = none) : ∀ member ∈ settleMembers members, Formed member.2 := by
  cases members with
  | nil => simp [settleMembers]
  | cons member members =>
      obtain ⟨key, value⟩ := member
      obtain ⟨hvalue, hmembers⟩ := Option.or_eq_none_iff.1 h
      exact List.forall_mem_cons.2 ⟨formed_settle hvalue, formed_settleMembers hmembers⟩

end

/-! ### The tokens of numbers -/

/-- A number that is written in digits has none of the loose names. -/
theorem not_loose_of_number? {text : String} (h : (number? text.toList).isSome = true) :
    looseNames.contains text = false := by
  have hnames : looseNames.all (fun name => !(number? name.toList).isSome) = true := by decide
  rw [List.contains_eq_mem, decide_eq_false_iff_not]
  intro hmem
  have hnone := List.all_eq_true.1 hnames text hmem
  simp [h] at hnone

/-- The text of a number is a standard token exactly if the number is finite. -/
theorem isStandard_floating (x : Binary64) :
    (Token.word (.number (NumberStyle.document.text x))).isStandard = x.isFinite := by
  cases x with
  | nan => rfl
  | infinite negative => cases negative <;> rfl
  | finite negative x =>
      have hnumber : (number? (NumberStyle.document.text (.finite negative x)).toList).isSome =
          true := by
        rw [toList_text_finite, number?_of_isDecimal (isDecimal_magnitudeText _ x)]
        rfl
      rw [Token.isStandard, not_loose_of_number? hnumber]
      rfl

mutual

/-- **The tokens of a value are standard if its numbers are finite**, and only then. -/
theorem all_isStandard_tokensOf (value : Json) :
    (tokensOf (settle value)).all Token.isStandard = value.isStandard := by
  cases value with
  | floating x =>
      rw [settle, tokensOf, List.all_cons, List.all_nil, Bool.and_true, Json.isStandard]
      · exact isStandard_floating x
      all_goals simp
  | array items =>
      cases items with
      | nil => rfl
      | cons item items =>
          simp [settle, settleItems, tokensOf, Token.isStandard, Json.isStandard, Json.areStandard,
            all_isStandard_tokensOf item, all_isStandard_tokensOfItems items]
  | object members =>
      cases members with
      | nil => rfl
      | cons member members =>
          obtain ⟨key, value⟩ := member
          simp [settle, settleMembers, tokensOf, Token.isStandard, Json.isStandard,
            Json.membersAreStandard, all_isStandard_tokensOf value,
            all_isStandard_tokensOfMembers members]
  | _ => rfl

theorem all_isStandard_tokensOfItems (items : List Json) :
    (tokensOfItems (settleItems items)).all Token.isStandard = Json.areStandard items := by
  cases items with
  | nil => rfl
  | cons item items =>
      simp [settleItems, tokensOfItems, Token.isStandard, Json.areStandard,
        all_isStandard_tokensOf item, all_isStandard_tokensOfItems items]

theorem all_isStandard_tokensOfMembers (members : List (String × Json)) :
    (tokensOfMembers (settleMembers members)).all Token.isStandard =
      Json.membersAreStandard members := by
  cases members with
  | nil => rfl
  | cons member members =>
      obtain ⟨key, value⟩ := member
      simp [settleMembers, tokensOfMembers, Token.isStandard, Json.membersAreStandard,
        all_isStandard_tokensOf value, all_isStandard_tokensOfMembers members]

end

/-! ### Written values -/

/-- **A written value is standard JSON exactly if its numbers are finite**, in every layout. -/
theorem isStandard_render {value : Json} (h : value.fault? = none) (indent : Option Int) :
    IsStandard (value.render indent) ↔ value.isStandard = true := by
  have hformed := formed_settle h
  have htext : (settle value).render indent = value.render indent := by
    rw [Json.render, renderAt_settle, Json.render]
  have htokens : tokens? (value.render indent).toList = some (tokensOf (settle value)) := by
    have hscans := scans_of_formed hformed (.ofIndent indent) 0 [] (by simp [EndsWord])
    rw [← htext, Json.render, String.toList_ofList]
    simpa using hscans
  have hread : read (value.render indent) = some (denoted (settle value)) := by
    rw [← htext]
    exact read_render_of_formed hformed indent
  rw [IsStandard, hread, htokens, ← all_isStandard_tokensOf]
  constructor
  · rintro ⟨-, tokens, heq, hall⟩
    rwa [Option.some.inj heq]
  · intro hall
    exact ⟨rfl, _, rfl, hall⟩

end JsonText

end TeachingTree

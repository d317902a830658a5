/-
**Written values are read back.**

A value is written as a row of tokens with blanks between some of them.  The tokens do not depend on
the layout, and neither does the value that the machine makes of them; so the text denotes the value
in every layout.

What may go wrong is where two tokens touch.  A word ends only where something else follows, and it
does: after a value comes a separator, a bracket, or the end of the text.  Within quotes, the quote
itself and the backslash are escaped, so that a text ends at its own quote.

Main definitions:

* `JsonText.datum` — what a value is, apart from how its numbers with a fraction are held;
* `JsonText.denoted` — what its text denotes, which is less if a key occurs twice;
* `JsonText.Formed`, `JsonText.Plain` — values that have a form: texts of characters, and objects
  with different keys;
* `JsonText.tokensOf` — the tokens of a value.

Main results:

* `JsonText.takeText?_escape` — **a text between quotes is read back**, whatever its characters;
* `JsonText.scans_of_formed` — the text of a value has its tokens, in every layout;
* `JsonText.makes_of_formed` — the machine makes a value of its tokens, wherever it stands;
* `JsonText.read_render` — **the text of a value denotes the value**, in every layout.
-/

import Mathlib.Data.List.Nodup
import TeachingTree.Proofs.Json.Number

set_option relaxedAutoImplicit false
set_option autoImplicit false

namespace TeachingTree.JsonText

open Json (Layout renderAt renderItems renderMembers renderText escape)
open Text (CodePoint)

/-! ### What values are -/

mutual

/-- What a value is: a floating-point number is known by its text. -/
def datum : Json → Datum
  | .null => .null
  | .bool b => .bool b
  | .integer n => .integer n
  | .floating x => .number (NumberStyle.document.text x)
  | .text s => .text (CodePoint.ofString s)
  | .array items => .array (dataOfItems items)
  | .object members => .object (dataOfMembers members)
  | .points value => .text value
  | .refused _ => .null

/-- What values are, in order. -/
def dataOfItems : List Json → List Datum
  | [] => []
  | item :: items => datum item :: dataOfItems items

/-- What members are, in order. -/
def dataOfMembers : List (String × Json) → List (List CodePoint × Datum)
  | [] => []
  | (key, value) :: members => (CodePoint.ofString key, datum value) :: dataOfMembers members

end

mutual

/-- What the text of a value denotes: of the members of an object with the same key the last one
counts. -/
def denoted : Json → Datum
  | .array items => .array (denotedItems items)
  | .object members => .object (denotedMembers [] members)
  | value => datum value

/-- What the texts of values denote, in order. -/
def denotedItems : List Json → List Datum
  | [] => []
  | item :: items => denoted item :: denotedItems items

/-- What the texts of members denote behind others. -/
def denotedMembers (before : List (List CodePoint × Datum)) :
    List (String × Json) → List (List CodePoint × Datum)
  | [] => before
  | (key, value) :: members =>
    denotedMembers (Datum.put (CodePoint.ofString key) (denoted value) before) members

end

/-- Values whose texts are texts of characters, and which have no place without a form. -/
inductive Formed : Json → Prop where
  | null : Formed .null
  | bool (b : Bool) : Formed (.bool b)
  | integer (n : Int) : Formed (.integer n)
  | floating (x : Binary64) : Formed (.floating x)
  | text (s : String) : Formed (.text s)
  | array {items : List Json} : (∀ item ∈ items, Formed item) → Formed (.array items)
  | object {members : List (String × Json)} :
      (∀ member ∈ members, Formed member.2) → Formed (.object members)

/-- Values that have a form, apart from the length of integers: no text holds halves of pairs, and
no key of an object occurs twice. -/
inductive Plain : Json → Prop where
  | null : Plain .null
  | bool (b : Bool) : Plain (.bool b)
  | integer (n : Int) : Plain (.integer n)
  | floating (x : Binary64) : Plain (.floating x)
  | text (s : String) : Plain (.text s)
  | array {items : List Json} : (∀ item ∈ items, Plain item) → Plain (.array items)
  | object {members : List (String × Json)} :
      (members.map Prod.fst).Nodup → (∀ member ∈ members, Plain member.2) → Plain (.object members)

theorem Plain.formed {value : Json} (h : Plain value) : Formed value := by
  induction h with
  | null => exact .null
  | bool b => exact .bool b
  | integer n => exact .integer n
  | floating x => exact .floating x
  | text s => exact .text s
  | array _ ih => exact .array ih
  | object _ _ ih => exact .object ih

/-! ### Tokens of values -/

mutual

/-- The tokens of a value. -/
def tokensOf : Json → List Token
  | .text s => [.quote (CodePoint.ofString s)]
  | .array [] => [.openArray, .closeArray]
  | .array (item :: items) => .openArray :: (tokensOf item ++ tokensOfItems items ++ [.closeArray])
  | .object [] => [.openObject, .closeObject]
  | .object ((key, value) :: members) =>
    .openObject :: .quote (CodePoint.ofString key) :: .colon ::
      (tokensOf value ++ tokensOfMembers members ++ [.closeObject])
  | value => [.word (datum value)]

/-- The tokens of the items after the first. -/
def tokensOfItems : List Json → List Token
  | [] => []
  | item :: items => .comma :: (tokensOf item ++ tokensOfItems items)

/-- The tokens of the members after the first. -/
def tokensOfMembers : List (String × Json) → List Token
  | [] => []
  | (key, value) :: members =>
    .comma :: .quote (CodePoint.ofString key) :: .colon ::
      (tokensOf value ++ tokensOfMembers members)

end

/-! ### Texts between quotes -/

/-- The four digits of a control character name it. -/
theorem hexPoint?_hexDigits :
    ∀ n < 0x20, hexPoint? (Text.hexDigits 4 n) = some (.char (Char.ofNat n)) := by decide

theorem length_hexDigits : ∀ n < 0x20, (Text.hexDigits 4 n).length = 4 := by decide

/-- A control character is read back from its digits. -/
theorem takeText?_hexDigits {n : Nat} (h : n < 0x20) (rest : List Char) :
    takeText? ('\\' :: 'u' :: (Text.hexDigits 4 n ++ rest)) =
      (takeText? rest).map fun (points, after) => (.char (Char.ofNat n) :: points, after) := by
  have hpoint := hexPoint?_hexDigits n h
  obtain ⟨a, b, c, d, hdigits⟩ : ∃ a b c d, Text.hexDigits 4 n = [a, b, c, d] := by
    have hlength := length_hexDigits n h
    match hlist : Text.hexDigits 4 n, hlength with
    | [a, b, c, d], _ => exact ⟨a, b, c, d, rfl⟩
  rw [hdigits] at hpoint ⊢
  simp only [List.cons_append, List.nil_append, takeText?, hpoint]
  cases takeText? rest with
  | none => rfl
  | some result => rfl

/-- A letter after a backslash names a character. -/
theorem takeText?_letter {letter c : Char} (hletter : letter ≠ 'u')
    (hchar : escaped? letter = some c) (rest : List Char) :
    takeText? ('\\' :: letter :: rest) =
      (takeText? rest).map fun (points, after) => (.char c :: points, after) := by
  rw [takeText?.eq_4 letter rest (by simpa using fun a b c d rest' heq _ => hletter heq), hchar]
  cases takeText? rest <;> rfl

/-- An escaped character is read back. -/
theorem takeText?_escape_append (c : Char) (rest : List Char) :
    takeText? (escape c ++ rest) =
      (takeText? rest).map fun (points, after) => (.char c :: points, after) := by
  unfold escape
  split
  · rename_i h
    rw [eq_of_beq h]
    exact takeText?_letter (by decide) rfl rest
  split
  · rename_i h
    rw [eq_of_beq h]
    exact takeText?_letter (by decide) rfl rest
  split
  · rename_i h
    rw [eq_of_beq h]
    exact takeText?_letter (by decide) rfl rest
  split
  · rename_i h
    rw [eq_of_beq h]
    exact takeText?_letter (by decide) rfl rest
  split
  · rename_i h
    rw [eq_of_beq h]
    exact takeText?_letter (by decide) rfl rest
  split
  · rename_i h
    rw [eq_of_beq h]
    exact takeText?_letter (by decide) rfl rest
  split
  · rename_i h
    rw [eq_of_beq h]
    exact takeText?_letter (by decide) rfl rest
  split
  · rename_i h
    have := takeText?_hexDigits h rest
    rwa [Char.ofNat_toNat] at this
  · -- any other character stands for itself
    rename_i hquote hbackslash _ _ _ _ _ hcontrol
    simp only [beq_iff_eq] at hquote hbackslash
    rw [List.singleton_append, takeText?.eq_5 c rest hquote
      (fun a b c' d rest' heq _ => hbackslash heq) (fun c' rest' heq _ => hbackslash heq),
      if_neg hcontrol]
    cases takeText? rest <;> rfl

/-- **A text between quotes is read back**, whatever its characters. -/
theorem takeText?_escape (cs rest : List Char) :
    takeText? (cs.flatMap escape ++ '"' :: rest) = some (cs.map .char, rest) := by
  induction cs with
  | nil => rfl
  | cons c cs ih =>
      rw [List.flatMap_cons, List.append_assoc, takeText?_escape_append, ih]
      rfl

theorem tokens?_renderText (s : String) (rest : List Char) :
    tokens? (renderText s ++ rest) =
      (tokens? rest).map (.quote (CodePoint.ofString s) :: ·) := by
  have htext := takeText?_escape s.toList rest
  have happend : renderText s ++ rest = '"' :: (s.toList.flatMap escape ++ '"' :: rest) := by
    simp [renderText]
  rw [happend]
  exact tokens?_quote htext

/-! ### The tokens of a text -/

theorem tokens?_replicate (n : Nat) (rest : List Char) :
    tokens? (List.replicate n ' ' ++ rest) = tokens? rest := by
  induction n with
  | zero => rfl
  | succ n ih => rw [List.replicate_succ, List.cons_append, tokens?_space rfl, ih]

/-- A line break is a blank. -/
theorem tokens?_lineBreak (layout : Layout) (level : Nat) (rest : List Char) :
    tokens? (layout.lineBreak level ++ rest) = tokens? rest := by
  cases layout with
  | oneLine => rfl
  | indented spaces => rw [Layout.lineBreak, List.cons_append, tokens?_space rfl, tokens?_replicate]

/-- A separator is a comma. -/
theorem tokens?_separator (layout : Layout) (level : Nat) (rest : List Char) :
    tokens? (layout.separator level ++ rest) = (tokens? rest).map (.comma :: ·) := by
  cases layout with
  | oneLine =>
      rw [Layout.separator, List.cons_append, tokens?_mark rfl rfl, List.singleton_append,
        tokens?_space rfl]
  | indented spaces =>
      rw [Layout.separator, List.cons_append, tokens?_mark rfl rfl, tokens?_lineBreak]

theorem endsWord_cons {c : Char} (h : isWordPart c = false) (rest : List Char) :
    EndsWord (c :: rest) := by
  rintro _ ⟨⟩
  exact h

theorem endsWord_lineBreak (layout : Layout) (level : Nat) {rest : List Char}
    (h : EndsWord rest) : EndsWord (layout.lineBreak level ++ rest) := by
  cases layout with
  | oneLine => exact h
  | indented spaces => exact endsWord_cons rfl _

theorem endsWord_separator (layout : Layout) (level : Nat) (rest : List Char) :
    EndsWord (layout.separator level ++ rest) := by
  cases layout <;> exact endsWord_cons rfl _

theorem endsWord_renderItems (layout : Layout) (level : Nat) (items : List Json)
    {rest : List Char} (h : EndsWord rest) :
    EndsWord (renderItems layout level items ++ rest) := by
  cases items with
  | nil => exact h
  | cons item items =>
      rw [renderItems, List.append_assoc, List.append_assoc]
      exact endsWord_separator layout level _

theorem endsWord_renderMembers (layout : Layout) (level : Nat) (members : List (String × Json))
    {rest : List Char} (h : EndsWord rest) :
    EndsWord (renderMembers layout level members ++ rest) := by
  cases members with
  | nil => exact h
  | cons member members =>
      rw [renderMembers, List.append_assoc, List.append_assoc, List.append_assoc]
      exact endsWord_separator layout level _

/-- The text of a value has the tokens of the value, if no word goes on behind it. -/
def Scans (value : Json) : Prop :=
  ∀ (layout : Layout) (level : Nat) (rest : List Char), EndsWord rest →
    tokens? (renderAt layout level value ++ rest) = (tokens? rest).map (tokensOf value ++ ·)

/-- A value that is one word has one token. -/
theorem scans_of_word {value : Json} {word : List Char} {denoted : Datum}
    (hrender : ∀ layout level, renderAt layout level value = word)
    (htokens : tokensOf value = [.word denoted]) (hword : word? word = some denoted)
    (hparts : ∀ c ∈ word, isWordPart c = true) : Scans value := by
  intro layout level rest hrest
  rw [hrender, htokens, tokens?_word hword hparts hrest]
  rfl

theorem tokens?_renderItems {items : List Json} (h : ∀ item ∈ items, Scans item)
    (layout : Layout) (level : Nat) {rest : List Char} (hrest : EndsWord rest) :
    tokens? (renderItems layout level items ++ rest) =
      (tokens? rest).map (tokensOfItems items ++ ·) := by
  induction items with
  | nil => simp [renderItems, tokensOfItems]
  | cons item items ih =>
      have hitem := h item (List.mem_cons_self ..)
      have hitems := ih fun other hother => h other (List.mem_cons_of_mem _ hother)
      rw [renderItems, List.append_assoc, List.append_assoc, tokens?_separator,
        hitem layout level _ (endsWord_renderItems layout level items hrest), hitems,
        Option.map_map, Option.map_map]
      simp [tokensOfItems, Function.comp_def]

/-- A key comes before a colon. -/
theorem tokens?_key (key : String) (rest : List Char) :
    tokens? (renderText key ++ ':' :: ' ' :: rest) =
      (tokens? rest).map (.quote (CodePoint.ofString key) :: .colon :: ·) := by
  rw [tokens?_renderText, tokens?_mark rfl rfl, tokens?_space rfl, Option.map_map]
  rfl

theorem tokens?_renderMembers {members : List (String × Json)}
    (h : ∀ member ∈ members, Scans member.2) (layout : Layout) (level : Nat) {rest : List Char}
    (hrest : EndsWord rest) :
    tokens? (renderMembers layout level members ++ rest) =
      (tokens? rest).map (tokensOfMembers members ++ ·) := by
  induction members with
  | nil => simp [renderMembers, tokensOfMembers]
  | cons member members ih =>
      obtain ⟨key, value⟩ := member
      have hvalue := h (key, value) (List.mem_cons_self ..)
      have hmembers := ih fun other hother => h other (List.mem_cons_of_mem _ hother)
      have hkey : renderMembers layout level ((key, value) :: members) ++ rest =
          layout.separator level ++ (renderText key ++ ':' :: ' ' ::
            (renderAt layout level value ++ (renderMembers layout level members ++ rest))) := by
        simp [renderMembers]
      rw [hkey, tokens?_separator, tokens?_key,
        hvalue layout level _ (endsWord_renderMembers layout level members hrest), hmembers,
        Option.map_map, Option.map_map, Option.map_map]
      simp [tokensOfMembers, Function.comp_def]

/-- The items of a list stand between brackets. -/
theorem scans_array {items : List Json} (h : ∀ item ∈ items, Scans item) :
    Scans (.array items) := by
  intro layout level rest hrest
  cases items with
  | nil =>
      rw [renderAt, List.cons_append, tokens?_mark rfl rfl, List.singleton_append,
        tokens?_mark rfl rfl, Option.map_map]
      rfl
  | cons item items =>
      have hclose : EndsWord (layout.lineBreak level ++ ']' :: rest) :=
        endsWord_lineBreak layout level (endsWord_cons rfl rest)
      have hitem := h item (List.mem_cons_self ..) layout (level + 1) _
        (endsWord_renderItems layout (level + 1) items hclose)
      have hitems := tokens?_renderItems
        (fun other hother => h other (List.mem_cons_of_mem _ hother)) layout (level + 1) hclose
      have hparts : renderAt layout level (.array (item :: items)) ++ rest =
          '[' :: (layout.lineBreak (level + 1) ++ (renderAt layout (level + 1) item ++
            (renderItems layout (level + 1) items ++
              (layout.lineBreak level ++ ']' :: rest)))) := by
        simp [renderAt]
      rw [hparts, tokens?_mark rfl rfl, tokens?_lineBreak, hitem, hitems, tokens?_lineBreak,
        tokens?_mark rfl rfl, Option.map_map, Option.map_map, Option.map_map]
      simp [tokensOf, Function.comp_def]

/-- The members of an object stand between braces. -/
theorem scans_object {members : List (String × Json)} (h : ∀ member ∈ members, Scans member.2) :
    Scans (.object members) := by
  intro layout level rest hrest
  cases members with
  | nil =>
      rw [renderAt, List.cons_append, tokens?_mark rfl rfl, List.singleton_append,
        tokens?_mark rfl rfl, Option.map_map]
      rfl
  | cons member members =>
      obtain ⟨key, value⟩ := member
      have hclose : EndsWord (layout.lineBreak level ++ '}' :: rest) :=
        endsWord_lineBreak layout level (endsWord_cons rfl rest)
      have hvalue := h (key, value) (List.mem_cons_self ..) layout (level + 1) _
        (endsWord_renderMembers layout (level + 1) members hclose)
      have hmembers := tokens?_renderMembers
        (fun other hother => h other (List.mem_cons_of_mem _ hother)) layout (level + 1) hclose
      have hparts : renderAt layout level (.object ((key, value) :: members)) ++ rest =
          '{' :: (layout.lineBreak (level + 1) ++ (renderText key ++ ':' :: ' ' ::
            (renderAt layout (level + 1) value ++ (renderMembers layout (level + 1) members ++
              (layout.lineBreak level ++ '}' :: rest))))) := by
        simp [renderAt]
      rw [hparts, tokens?_mark rfl rfl, tokens?_lineBreak, tokens?_key, hvalue, hmembers,
        tokens?_lineBreak, tokens?_mark rfl rfl, Option.map_map, Option.map_map, Option.map_map,
        Option.map_map]
      simp [tokensOf, Function.comp_def]

/-- **The text of a value has the tokens of the value**, in every layout. -/
theorem scans_of_formed {value : Json} (h : Formed value) : Scans value := by
  induction h with
  | null => exact scans_of_word (fun _ _ => rfl) rfl rfl (List.all_eq_true.1 (by decide))
  | bool b =>
      cases b <;> exact scans_of_word (fun _ _ => rfl) rfl rfl (List.all_eq_true.1 (by decide))
  | integer n =>
      exact scans_of_word (fun _ _ => rfl) rfl (word?_renderInteger n) fun _ =>
        isWordPart_of_mem_renderInteger
  | floating x =>
      exact scans_of_word (fun _ _ => rfl) rfl (word?_floating x) fun _ =>
        isWordPart_of_mem_floating
  | text s =>
      intro layout level rest _
      exact tokens?_renderText s rest
  | array _ ih => exact scans_array ih
  | object _ ih => exact scans_object ih

/-! ### The value of tokens -/

/-- The first token of a value starts a value. -/
theorem exists_startValue (value : Json) :
    ∃ token tokens, tokensOf value = token :: tokens ∧
      ∀ frames, (Reader.startValue frames token).isSome = true := by
  fun_cases tokensOf value <;> exact ⟨_, _, rfl, fun _ => rfl⟩

/-- Where a list may end, it may also go on. -/
theorem run_item (value : Json) (frames : List Frame) (rest : List Token) :
    Reader.run ⟨.item, frames⟩ (tokensOf value ++ rest) =
      Reader.run ⟨.value, frames⟩ (tokensOf value ++ rest) := by
  obtain ⟨token, tokens, htokens, hstart⟩ := exists_startValue value
  rw [htokens, List.cons_append, Reader.run_cons, Reader.run_cons]
  have hstep : Reader.step ⟨.item, frames⟩ token = Reader.step ⟨.value, frames⟩ token := by
    cases token with
    | closeArray => simpa [Reader.startValue] using hstart frames
    | _ => simp [Reader.step]
  rw [hstep]

/-- The machine makes a value of its tokens, wherever it stands. -/
def Makes (value : Json) : Prop :=
  ∀ (frames : List Frame) (rest : List Token),
    Reader.run ⟨.value, frames⟩ (tokensOf value ++ rest) =
      Reader.run ⟨.after (denoted value), frames⟩ rest

theorem run_tokensOfItems {items : List Json} (h : ∀ item ∈ items, Makes item)
    (before : List Datum) (value : Datum) (frames : List Frame) (rest : List Token) :
    Reader.run ⟨.after value, .items before :: frames⟩
        (tokensOfItems items ++ .closeArray :: rest) =
      Reader.run ⟨.after (.array (before ++ value :: denotedItems items)), frames⟩ rest := by
  induction items generalizing before value with
  | nil => rfl
  | cons item items ih =>
      have hitem := h item (List.mem_cons_self ..)
      have hitems := ih fun other hother => h other (List.mem_cons_of_mem _ hother)
      rw [tokensOfItems, List.cons_append, List.append_assoc, Reader.run_cons]
      show Reader.run ⟨.value, .items (before ++ [value]) :: frames⟩ _ = _
      rw [hitem, hitems, denotedItems, List.append_assoc]
      rfl

theorem run_tokensOfMembers {members : List (String × Json)}
    (h : ∀ member ∈ members, Makes member.2)
    (before : List (List CodePoint × Datum)) (key : List CodePoint) (value : Datum)
    (frames : List Frame) (rest : List Token) :
    Reader.run ⟨.after value, .member before key :: frames⟩
        (tokensOfMembers members ++ .closeObject :: rest) =
      Reader.run ⟨.after (.object (denotedMembers (Datum.put key value before) members)), frames⟩
        rest := by
  induction members generalizing before key value with
  | nil => rfl
  | cons member members ih =>
      obtain ⟨nextKey, nextValue⟩ := member
      have hnext := h (nextKey, nextValue) (List.mem_cons_self ..)
      have hmembers := ih fun other hother => h other (List.mem_cons_of_mem _ hother)
      -- the comma closes the member before it, and the key and the colon open the next one
      rw [tokensOfMembers, List.cons_append, List.cons_append, List.cons_append, List.append_assoc,
        Reader.run_cons]
      show Reader.run ⟨.value, .member (Datum.put key value before)
        (CodePoint.ofString nextKey) :: frames⟩ _ = _
      rw [hnext, hmembers, denotedMembers]

theorem makes_array {items : List Json} (h : ∀ item ∈ items, Makes item) :
    Makes (.array items) := by
  intro frames rest
  cases items with
  | nil => rfl
  | cons item items =>
      have hitem := h item (List.mem_cons_self ..)
      have hitems := fun other hother => h other (List.mem_cons_of_mem _ hother)
      rw [tokensOf, List.cons_append, List.append_assoc, List.append_assoc, Reader.run_cons]
      show Reader.run ⟨.item, .items [] :: frames⟩ _ = _
      rw [run_item, hitem, List.singleton_append, run_tokensOfItems hitems]
      rfl

theorem makes_object {members : List (String × Json)} (h : ∀ member ∈ members, Makes member.2) :
    Makes (.object members) := by
  intro frames rest
  cases members with
  | nil => rfl
  | cons member members =>
      obtain ⟨key, value⟩ := member
      have hvalue := h (key, value) (List.mem_cons_self ..)
      have hmembers := fun other hother => h other (List.mem_cons_of_mem _ hother)
      rw [tokensOf, List.cons_append, List.cons_append, List.cons_append, List.append_assoc,
        List.append_assoc, Reader.run_cons]
      show Reader.run ⟨.value, .member [] (CodePoint.ofString key) :: frames⟩ _ = _
      rw [hvalue, List.singleton_append, run_tokensOfMembers hmembers]
      rfl

/-- **The machine makes a value of its tokens**, wherever it stands. -/
theorem makes_of_formed {value : Json} (h : Formed value) : Makes value := by
  induction h with
  | null | bool | integer | floating | text => exact fun _ _ => rfl
  | array _ ih => exact makes_array ih
  | object _ ih => exact makes_object ih

/-! ### Objects with different keys -/

/-- Different strings have different code points. -/
theorem ofString_injective : Function.Injective CodePoint.ofString := by
  intro a b h
  have hstring := congrArg CodePoint.string? h
  rwa [CodePoint.string?_ofString, CodePoint.string?_ofString, Option.some.injEq] at hstring

theorem denotedItems_eq {items : List Json} (h : ∀ item ∈ items, denoted item = datum item) :
    denotedItems items = dataOfItems items := by
  induction items with
  | nil => rfl
  | cons item items ih =>
      rw [denotedItems, dataOfItems, h item (List.mem_cons_self ..),
        ih fun other hother => h other (List.mem_cons_of_mem _ hother)]

/-- Members whose keys are different from each other and from those before them all stay. -/
theorem denotedMembers_eq {members : List (String × Json)}
    (h : ∀ member ∈ members, denoted member.2 = datum member.2)
    {before : List (List CodePoint × Datum)}
    (hkeys : (before.map Prod.fst ++
      (members.map Prod.fst).map CodePoint.ofString).Nodup) :
    denotedMembers before members = before ++ dataOfMembers members := by
  induction members generalizing before with
  | nil => rw [denotedMembers, dataOfMembers, List.append_nil]
  | cons member members ih =>
      obtain ⟨key, value⟩ := member
      have hvalue : denoted value = datum value := h (key, value) (List.mem_cons_self ..)
      have hnew : CodePoint.ofString key ∉ before.map Prod.fst := by
        intro hmem
        exact (List.nodup_append.1 hkeys).2.2 _ hmem _ (List.mem_cons_self ..) rfl
      have hrest : ((before ++ [(CodePoint.ofString key, datum value)]).map Prod.fst ++
          (members.map Prod.fst).map CodePoint.ofString).Nodup := by
        simpa using hkeys
      rw [denotedMembers, hvalue, Datum.put_of_notMem hnew,
        ih (fun other hother => h other (List.mem_cons_of_mem _ hother)) hrest, dataOfMembers,
        List.append_assoc]
      rfl

/-- Where no key occurs twice, nothing is lost. -/
theorem denoted_of_plain {value : Json} (h : Plain value) : denoted value = datum value := by
  induction h with
  | null | bool | integer | floating | text => rfl
  | array _ ih => rw [denoted, datum, denotedItems_eq ih]
  | object hkeys _ ih =>
      rw [denoted, datum, denotedMembers_eq ih, List.nil_append]
      simpa using List.Nodup.map ofString_injective hkeys

/-! ### Reading a text -/

/-- The text of a value can be read, whatever keys it has. -/
theorem read_render_of_formed {value : Json} (h : Formed value) (indent : Option Int) :
    read (value.render indent) = some (denoted value) := by
  have htokens := scans_of_formed h (.ofIndent indent) 0 [] (by simp [EndsWord])
  have hrun := makes_of_formed h [] []
  rw [List.append_nil] at htokens hrun
  rw [read, Json.render, String.toList_ofList, htokens]
  simp only [tokens?_nil, Option.map_some, List.append_nil, Option.bind_eq_bind, Option.bind_some,
    hrun]
  rfl

/-- **The text of a value denotes the value**, in every layout. -/
theorem read_render {value : Json} (h : Plain value) (indent : Option Int) :
    read (value.render indent) = some (datum value) := by
  rw [read_render_of_formed h.formed, denoted_of_plain h]

end TeachingTree.JsonText

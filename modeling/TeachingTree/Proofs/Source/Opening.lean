/-
**What opens a layer of a signature.**

The splitting of a signature looks for the first container anywhere in the text.  It opens a layer
if only qualifiers stand before that container and the text is not cut off there.  This module shows
what that comes to.  Qualifiers have no character at which a text is cut off, so the second
condition never decides; and the first one makes it a question about the words of the text: the
first word that is no qualifier must start with the name of a container and its bracket, or be the
name and stand before a word that starts with the bracket.

Stripping a text takes words off its ends and changes the blanks between them, and cutting a text
off takes away what is behind a comma or a closing bracket.  Neither can make a container of what
was none.  So the element that a split ends with has no layer, and no qualifier, of its own.

Main definitions:

* `Signature.openLayer?` — the text inside the container that a text starts with, qualifiers aside;
* `Signature.opensLayer` — whether words start with a container, qualifiers aside.

Main results:

* `Signature.words_stripQualifiers` — the words that stripping leaves;
* `Signature.splitLayers_of_openLayer?_eq_some`, `Signature.splitLayers_of_openLayer?_eq_none` —
  layers are opened one after the other;
* `Signature.isSome_openLayer?` — **the words of a text decide whether it opens a layer**;
* `Signature.openLayer?_stripQualifiers`, `Signature.openLayer?_take` — what is stripped or cut off
  opens no layer that was none;
* `Signature.splitContainer_element` — **splitting the element again changes nothing**.
-/

import Mathlib.Data.List.DropRight
import TeachingTree.Proofs.Source.Signature
import TeachingTree.Proofs.Text.Words

set_option relaxedAutoImplicit false
set_option autoImplicit false

namespace TeachingTree.Signature

open Text

/-! ### Stripped words -/

theorem stripWords_eq (ws : List (List Char)) :
    stripWords ws =
      (ws.dropWhile leadingQualifiers.contains).rdropWhile trailingQualifiers.contains := rfl

/-- What stripping leaves is at the start of what it leaves at the front. -/
theorem stripWords_isPrefix (ws : List (List Char)) :
    stripWords ws <+: ws.dropWhile leadingQualifiers.contains := by
  rw [stripWords_eq]
  exact List.rdropWhile_prefix _ _

theorem mem_of_mem_stripWords {ws : List (List Char)} {w : List Char} (h : w ∈ stripWords ws) :
    w ∈ ws :=
  (List.dropWhile_sublist _).mem ((stripWords_isPrefix ws).sublist.mem h)

/-- Stripped words start with no qualifier. -/
theorem notMem_of_head?_stripWords (ws : List (List Char)) :
    ∀ w ∈ (stripWords ws).head?, w ∉ leadingQualifiers := by
  intro w hw
  obtain ⟨rest, hrest⟩ := stripWords_isPrefix ws
  have hhead : (ws.dropWhile leadingQualifiers.contains).head? = some w := by
    rw [← hrest, List.head?_append, Option.mem_def.1 hw, Option.some_or]
  have hstop := List.head?_dropWhile_not leadingQualifiers.contains ws
  rw [hhead] at hstop
  simpa using hstop

/-- Stripped words end with no qualifier. -/
theorem notMem_of_getLast?_stripWords (ws : List (List Char)) :
    ∀ w ∈ (stripWords ws).getLast?, w ∉ trailingQualifiers := by
  intro w hw
  rw [stripWords_eq] at hw
  obtain ⟨hne, rfl⟩ := List.mem_getLast?_eq_getLast hw
  simpa using List.rdropWhile_last_not trailingQualifiers.contains _ hne

/-- Words without qualifiers at their ends stay as they are. -/
theorem stripWords_eq_self {ws : List (List Char)}
    (hhead : ∀ w ∈ ws.head?, w ∉ leadingQualifiers)
    (hlast : ∀ w ∈ ws.getLast?, w ∉ trailingQualifiers) : stripWords ws = ws := by
  have hleading : ws.dropWhile leadingQualifiers.contains = ws := by
    cases ws with
    | nil => rfl
    | cons w ws => exact List.dropWhile_cons_of_neg (by simpa using hhead w rfl)
  rw [stripWords_eq, hleading, List.rdropWhile_eq_self_iff]
  intro hne
  simpa using hlast _ (List.getLast_mem_getLast? hne)

theorem stripWords_stripWords (ws : List (List Char)) :
    stripWords (stripWords ws) = stripWords ws :=
  stripWords_eq_self (notMem_of_head?_stripWords ws) (notMem_of_getLast?_stripWords ws)

/-- Nothing is left of qualifiers only. -/
theorem stripWords_eq_nil_iff (ws : List (List Char)) :
    stripWords ws = [] ↔ ∀ w ∈ ws, w ∈ leadingQualifiers := by
  have htrailing : ∀ w ∈ trailingQualifiers, w ∈ leadingQualifiers := by decide
  rw [stripWords_eq, List.rdropWhile_eq_nil_iff]
  constructor
  · intro h w hw
    have hnil : ws.dropWhile leadingQualifiers.contains = [] := by
      cases hdrop : ws.dropWhile leadingQualifiers.contains with
      | nil => rfl
      | cons v rest =>
          -- the first word that does not lead would have to trail, and what trails may lead, too
          have hstop := List.head?_dropWhile_not leadingQualifiers.contains ws
          rw [hdrop, List.head?_cons] at hstop
          have hv := h v (hdrop ▸ List.mem_cons_self ..)
          simp only [List.contains_iff_mem] at hv
          simp [htrailing v hv] at hstop
    simpa using List.dropWhile_eq_nil_iff.1 hnil w hw
  · intro h w hw
    rw [List.dropWhile_eq_nil_iff.2 fun v hv => by simpa using h v hv] at hw
    simp at hw

/-- **The words that stripping leaves.** -/
theorem words_stripQualifiers (cs : List Char) :
    words (stripQualifiers cs) = stripWords (words cs) := by
  rw [stripQualifiers, words_unwords]
  intro w hw
  exact isWord_of_mem_words w (mem_of_mem_stripWords hw)

/-- Of the blanks in a text nothing is left. -/
theorem stripQualifiers_congr {cs other : List Char} (h : words cs = words other) :
    stripQualifiers cs = stripQualifiers other := by
  rw [stripQualifiers, stripQualifiers, h]

/-- A stripped text stays as it is. -/
theorem stripQualifiers_stripQualifiers (cs : List Char) :
    stripQualifiers (stripQualifiers cs) = stripQualifiers cs := by
  rw [stripQualifiers, words_stripQualifiers, stripWords_stripWords, stripQualifiers]

theorem stripQualifiers_eq_nil_iff (cs : List Char) :
    stripQualifiers cs = [] ↔ ∀ w ∈ words cs, w ∈ leadingQualifiers := by
  rw [← stripWords_eq_nil_iff, ← words_stripQualifiers]
  constructor
  · intro h
    rw [h, words_nil]
  · intro h
    rw [stripQualifiers, ← words_stripQualifiers, h, unwords_nil]

/-! ### Where a container starts -/

/-- What follows the opening bracket, if a container starts here without the word `class`. -/
def vectorHere? (cs : List Char) : Option (List Char) :=
  match after? "vector" (skipInlineNamespace (skipStd cs)) with
  | some rest =>
    match dropBlank rest with
    | '<' :: inner => some inner
    | _ => none
  | none => none

theorem containerHere?_eq (cs : List Char) : containerHere? cs = vectorHere? (skipClass cs) := rfl

/-- A container without the word `class` is one. -/
theorem containerHere?_of_vectorHere? {cs inner : List Char} (h : vectorHere? cs = some inner) :
    containerHere? cs = some inner := by
  have hskip : skipClass cs = cs := by
    unfold skipClass
    split
    · rename_i c rest hafter
      -- what starts with the word `class` starts with no name of a container
      rw [dropStart?_eq_some_iff.1 hafter] at h
      exact absurd h (by simp [vectorHere?, skipStd, skipInlineNamespace, after?, dropStart?])
    · rfl
  rw [containerHere?_eq, hskip, h]

theorem containerHere?_nil : containerHere? [] = none := rfl

/-- A container starts with a letter or an underscore. -/
theorem containerHere?_cons {c : Char} (h : isWordChar c = false) (cs : List Char) :
    containerHere? (c :: cs) = none := by
  have hne : ∀ d : Char, isWordChar d = true → d ≠ c := by
    rintro d hd rfl
    rw [h] at hd
    exact Bool.noConfusion hd
  have hc := hne 'c' (by decide)
  have hs := hne 's' (by decide)
  have hv := hne 'v' (by decide)
  have hskip : skipInlineNamespace (c :: cs) = c :: cs :=
    skipInlineNamespace_of_ne fun rest heq => hne '_' (by decide) (List.cons.inj heq).1.symm
  simp [containerHere?, skipClass, skipStd, after?, dropStart?, hc, hs, hv, hskip]

/-- A container that is found stands behind what is before it, and not inside a word. -/
theorem exists_of_findContainer {inWord : Bool} {cs before inner : List Char}
    (h : findContainer inWord cs = some (before, inner)) :
    ∃ rest, cs = before ++ rest ∧ containerHere? rest = some inner ∧
      (before = [] → inWord = false) ∧ ∀ c ∈ before.getLast?, isWordChar c = false := by
  induction cs generalizing inWord before with
  | nil => simp [findContainer] at h
  | cons d cs ih =>
      rw [findContainer] at h
      split at h
      · rename_i found hfound
        simp only [Option.some.injEq, Prod.mk.injEq] at h
        obtain ⟨rfl, rfl⟩ := h
        cases inWord with
        | true => simp at hfound
        | false => exact ⟨d :: cs, rfl, hfound, fun _ => rfl, by simp⟩
      · simp only [Option.map_eq_some_iff, Prod.exists, Prod.mk.injEq] at h
        obtain ⟨front, found, hfound, rfl, rfl⟩ := h
        obtain ⟨rest, rfl, hrest, hword, hlast⟩ := ih hfound
        refine ⟨rest, rfl, hrest, by simp, ?_⟩
        intro c hc
        cases front with
        | nil =>
            have hdc : d = c := by simpa using hc
            rw [← hdc]
            exact hword rfl
        | cons e front => exact hlast c (by simpa using hc)

/-! ### Opening a layer -/

/-- The text inside the container that a text starts with, qualifiers aside. -/
def openLayer? (cs : List Char) : Option (List Char) :=
  match findContainer false cs with
  | some (before, inner) =>
    if (words before).all leadingQualifiers.contains then some inner else none
  | none => none

variable {w cs inner : List Char}

theorem length_openLayer?_lt (h : openLayer? cs = some inner) : inner.length < cs.length := by
  unfold openLayer? at h
  split at h
  · rename_i before found hfound
    split at h
    · rw [← Option.some.inj h]
      exact length_findContainer_lt hfound
    · simp at h
  · simp at h

/-- A container at the start of a text is the first one. -/
theorem openLayer?_of_containerHere? (h : containerHere? cs = some inner) :
    openLayer? cs = some inner := by
  cases cs with
  | nil => simp [containerHere?_nil] at h
  | cons c cs => simp [openLayer?, findContainer, h]

/-- Blanks in front of a text do not matter. -/
theorem openLayer?_cons {c : Char} (hc : isBlank c = true) (cs : List Char) :
    openLayer? (c :: cs) = openLayer? cs := by
  have hword := isWordChar_of_isBlank hc
  rw [openLayer?, findContainer, containerHere?_cons hword, hword, openLayer?]
  cases findContainer false cs with
  | none => rfl
  | some found => simp [words_cons_blank hc]

theorem openLayer?_dropBlank (cs : List Char) : openLayer? (dropBlank cs) = openLayer? cs := by
  induction cs with
  | nil => rfl
  | cons c cs ih =>
      rw [dropBlank, List.dropWhile_cons]
      split
      · rename_i hc
        rw [openLayer?_cons hc]
        exact ih
      · rfl

/-- No container starts inside a word. -/
theorem findContainer_word (hw : ∀ c ∈ w, isWordChar c = true) (hcs : Breaks cs) :
    findContainer true (w ++ cs) =
      (findContainer false cs).map fun (before, inner) => (w ++ before, inner) := by
  induction w with
  | nil =>
      cases cs with
      | nil => rfl
      | cons c cs =>
          have hc := isWordChar_of_isBlank (hcs c rfl)
          simp [findContainer, containerHere?_cons hc, Function.comp_def]
  | cons d w ih =>
      rw [List.forall_mem_cons] at hw
      rw [List.cons_append, findContainer, hw.1, ih hw.2]
      simp [Function.comp_def]

/-- If no container starts with a word, the first one is behind it. -/
theorem findContainer_letters (hne : w ≠ []) (hw : ∀ c ∈ w, isWordChar c = true) (hcs : Breaks cs)
    (hhere : containerHere? (w ++ cs) = none) :
    findContainer false (w ++ cs) =
      (findContainer false cs).map fun (before, inner) => (w ++ before, inner) := by
  cases w with
  | nil => exact absurd rfl hne
  | cons d w =>
      rw [List.forall_mem_cons] at hw
      rw [List.cons_append] at hhere ⊢
      rw [findContainer, hhere, hw.1, findContainer_word hw.2 hcs]
      simp [Function.comp_def]

/-- A container behind a qualifier is the one that starts behind it, or with it. -/
theorem openLayer?_of_containerHere?_qualifier (hw : w ∈ leadingQualifiers) (hcs : Breaks cs)
    (h : containerHere? (w ++ cs) = some inner) : openLayer? cs = some inner := by
  have hother : ∀ v ∈ leadingQualifiers, v ≠ "class".toList →
      containerHere? (v ++ cs) = none := by
    simp only [leadingQualifiers, List.forall_mem_cons]
    refine ⟨fun _ => rfl, fun _ => rfl, fun hne => absurd rfl hne, fun _ => rfl, fun _ => rfl, ?_⟩
    simp
  by_cases hclass : w = "class".toList
  · subst hclass
    cases cs with
    | nil =>
        have hnone : containerHere? ("class".toList ++ []) = none := rfl
        rw [hnone] at h
        simp at h
    | cons c cs =>
        have hc : isBlank c = true := hcs c rfl
        have hskip : skipClass ("class".toList ++ c :: cs) = dropBlank cs := by
          simp [skipClass, after?, dropStart?, hc]
        rw [containerHere?_eq, hskip] at h
        rw [openLayer?_cons hc, ← openLayer?_dropBlank]
        exact openLayer?_of_containerHere? (containerHere?_of_vectorHere? h)
  · rw [hother w hw hclass] at h
    simp at h

/-- Qualifiers are words of letters. -/
theorem isWord_of_mem_leadingQualifiers (hw : w ∈ leadingQualifiers) :
    IsWord w ∧ ∀ c ∈ w, isWordChar c = true := by
  have hall : ∀ v ∈ leadingQualifiers, v ≠ [] ∧ v.all isWordChar = true := by decide
  obtain ⟨hne, hletters⟩ := hall w hw
  rw [List.all_eq_true] at hletters
  exact ⟨⟨hne, fun c hc => isBlank_of_isWordChar (hletters c hc)⟩, hletters⟩

/-- **Qualifiers in front of a text do not matter.** -/
theorem openLayer?_qualifier (hw : w ∈ leadingQualifiers) (hcs : Breaks cs) :
    openLayer? (w ++ cs) = openLayer? cs := by
  cases hhere : containerHere? (w ++ cs) with
  | some inner =>
      rw [openLayer?_of_containerHere? hhere, openLayer?_of_containerHere?_qualifier hw hcs hhere]
  | none =>
      obtain ⟨hword, hletters⟩ := isWord_of_mem_leadingQualifiers hw
      rw [openLayer?, findContainer_letters hword.1 hletters hcs hhere, openLayer?]
      cases hfound : findContainer false cs with
      | none => rfl
      | some found =>
          obtain ⟨before, inner⟩ := found
          obtain ⟨rest, hsplit, -⟩ := exists_of_findContainer hfound
          have hbefore : Breaks before := hcs.of_isPrefix ⟨rest, hsplit.symm⟩
          simp [words_append_of_breaks hword hbefore, hw]

/-- **A word that is no qualifier opens a layer if a container starts with it.** -/
theorem openLayer?_word (hw : IsWord w) (hq : w ∉ leadingQualifiers) (hcs : Breaks cs) :
    openLayer? (w ++ cs) = containerHere? (w ++ cs) := by
  cases hhere : containerHere? (w ++ cs) with
  | some inner => exact openLayer?_of_containerHere? hhere
  | none =>
      unfold openLayer?
      split
      · rename_i before inner hfound
        rw [if_neg]
        intro hall
        have hqualifiers : ∀ v ∈ words before, v ∈ leadingQualifiers := by
          simpa using hall
        obtain ⟨rest, hsplit, hrest, -, hlast⟩ := exists_of_findContainer hfound
        rcases List.append_eq_append_iff.1 hsplit with ⟨front, rfl, hcs'⟩ | ⟨back, rfl, rfl⟩
        · -- the container is behind the word, which is then among the words before it
          have hfront : Breaks front := hcs.of_isPrefix ⟨rest, hcs'.symm⟩
          rw [words_append_of_breaks hw hfront] at hqualifiers
          exact hq (hqualifiers w (List.mem_cons_self ..))
        · -- the container is inside the word, behind a character of no word
          have hne : before ≠ [] := by
            rintro rfl
            rw [List.nil_append] at hhere
            rw [hhere] at hrest
            simp at hrest
          have hword : IsWord before :=
            ⟨hne, fun c hc => hw.2 c (List.mem_append_left _ hc)⟩
          rw [words_of_isWord hword] at hqualifiers
          have hletters :=
            (isWord_of_mem_leadingQualifiers (hqualifiers before (List.mem_cons_self ..))).2
          have hletter := hletters _ (List.getLast_mem hne)
          rw [hlast _ (List.getLast_mem_getLast? hne)] at hletter
          exact Bool.noConfusion hletter
      · rfl

/-! ### Layers -/

/-- A text is not cut off before a container behind qualifiers. -/
theorem length_lt_boundaryFrom {before rest : List Char}
    (hbefore : ∀ v ∈ words before, v ∈ leadingQualifiers)
    (hrest : containerHere? rest = some inner) :
    before.length < boundaryFrom 0 (before ++ rest) := by
  have hplain : ∀ d ∈ before, d ∉ ['<', '(', '[', ')', ']', '>', ','] := by
    intro d hd
    rcases isBlank_or_mem_words d hd with hblank | ⟨v, hv, hdv⟩
    · exact notMem_marks (.inl hblank)
    · exact notMem_marks (.inr ((isWord_of_mem_leadingQualifiers (hbefore v hv)).2 d hdv))
  rw [boundaryFrom_plain_append hplain]
  cases rest with
  | nil => simp [containerHere?_nil] at hrest
  | cons c rest =>
      have hc : isWordChar c = true := by
        by_contra hc
        rw [containerHere?_cons (by simpa using hc)] at hrest
        simp at hrest
      have hfirst : boundaryFrom 0 ([c] ++ rest) = [c].length + boundaryFrom 0 rest :=
        boundaryFrom_plain_append (by simpa using notMem_marks (.inr hc)) rest
      rw [List.singleton_append, List.length_singleton] at hfirst
      omega

theorem splitLayers_of_openLayer?_eq_none (h : openLayer? cs = none) :
    splitLayers cs = (0, cs) := by
  refine splitLayers_of_closed fun before inner hfound hempty => ?_
  have hall := (stripQualifiers_eq_nil_iff before).1 (List.isEmpty_iff.1 hempty)
  rw [openLayer?, hfound] at h
  simp only [ite_eq_right_iff, List.all_eq_true, reduceCtorEq, imp_false] at h
  exact absurd (by simpa using hall) h

/-- **Layers are opened one after the other.** -/
theorem splitLayers_of_openLayer?_eq_some (h : openLayer? cs = some inner) :
    splitLayers cs = ((splitLayers inner).1 + 1, (splitLayers inner).2) := by
  unfold openLayer? at h
  split at h
  · rename_i before found hfound
    split at h
    · rename_i hall
      rw [Option.some.injEq] at h
      subst h
      have hbefore : ∀ v ∈ words before, v ∈ leadingQualifiers := by simpa using hall
      obtain ⟨rest, hsplit, hrest, -⟩ := exists_of_findContainer hfound
      rw [splitLayers]
      split
      · rename_i before' inner' hfound'
        rw [hfound, Option.some.injEq, Prod.mk.injEq] at hfound'
        obtain ⟨rfl, rfl⟩ := hfound'
        rw [if_pos]
        rw [Bool.and_eq_true, decide_eq_true_eq, List.isEmpty_iff]
        refine ⟨(stripQualifiers_eq_nil_iff before).2 hbefore, ?_⟩
        rw [hsplit]
        exact length_lt_boundaryFrom hbefore hrest
      · rename_i hnone
        rw [hfound] at hnone
        simp at hnone
    · simp at h
  · simp at h

/-- Where the splitting ends, no layer is left. -/
theorem openLayer?_splitLayers (cs : List Char) : openLayer? (splitLayers cs).2 = none := by
  induction h : cs.length using Nat.strong_induction_on generalizing cs with
  | _ n ih =>
      cases hopen : openLayer? cs with
      | none => rwa [splitLayers_of_openLayer?_eq_none hopen]
      | some inner =>
          have hlt := length_openLayer?_lt hopen
          rw [splitLayers_of_openLayer?_eq_some hopen]
          exact ih inner.length (h ▸ hlt) inner rfl

/-! ### Words decide -/

/-- Whether a word, in front of others, starts with the name of a container and a bracket. -/
def startsContainer (w : List Char) (ws : List (List Char)) : Bool :=
  match after? "vector" (skipInlineNamespace (skipStd w)) with
  | some rest => (rest ++ ws.headD []).head? == some '<'
  | none => false

/-- Whether words start with a container, qualifiers aside. -/
def opensLayer : List (List Char) → Bool
  | [] => false
  | w :: ws => if leadingQualifiers.contains w then opensLayer ws else startsContainer w ws

theorem isSome_vectorHere? (cs : List Char) :
    (vectorHere? cs).isSome =
      ((after? "vector" (skipInlineNamespace (skipStd cs))).any
        fun rest => (dropBlank rest).head? == some '<') := by
  unfold vectorHere?
  cases after? "vector" (skipInlineNamespace (skipStd cs)) with
  | none => rfl
  | some rest =>
      rw [Option.any_some]
      cases hdrop : dropBlank rest with
      | nil => simp [hdrop]
      | cons c inner => by_cases hc : c = '<' <;> simp [hdrop, hc]

/-- The parts of the name of a container are in the word or not at all. -/
theorem afterVector_append (hcs : Breaks cs) (w : List Char) :
    after? "vector" (skipInlineNamespace (skipStd (w ++ cs))) =
      (after? "vector" (skipInlineNamespace (skipStd w))).map (· ++ cs) := by
  cases cs with
  | nil => simp
  | cons c cs =>
      have hc : isBlank c = true := hcs c rfl
      have hcolon : c ≠ ':' := by
        rintro rfl
        exact absurd hc (by decide)
      have hsevers : Severs c := ⟨isWordChar_of_isBlank hc, hcolon⟩
      rw [skipStd_append hsevers, skipInlineNamespace_append hsevers,
        hsevers.after?_append (forall_mem_of_all (by decide))]

/-- The first character behind the blanks of a text that may break is that of the text, or else of
the next word. -/
theorem head?_dropBlank_append {rest : List Char} (hrest : ∀ c ∈ rest, isBlank c = false)
    (cs : List Char) :
    (dropBlank (rest ++ cs)).head? = (rest ++ (words cs).headD []).head? := by
  cases rest with
  | nil =>
      rw [List.nil_append, List.nil_append, head?_dropBlank]
      cases words cs <;> rfl
  | cons c rest =>
      rw [dropBlank_append_of_isWord ⟨List.cons_ne_nil _ _, hrest⟩]
      rfl

/-- A container that starts with a word starts with it and the next word. -/
theorem isSome_containerHere? (hw : IsWord w) (hq : w ∉ leadingQualifiers) (hcs : Breaks cs) :
    (containerHere? (w ++ cs)).isSome = startsContainer w (words cs) := by
  have hskip : skipClass (w ++ cs) = w ++ cs := by
    unfold skipClass
    split
    · rename_i c rest hafter
      rw [if_neg]
      intro hc
      -- otherwise the word is `class`, which is a qualifier
      have hclass : IsWord "class".toList := ⟨by decide, forall_mem_of_all (by decide)⟩
      have hwords := congrArg words (dropStart?_eq_some_iff.1 hafter)
      rw [words_append_of_breaks hw hcs, words_append_of_breaks hclass (breaks_cons hc rest)]
        at hwords
      rw [(List.cons.inj hwords).1] at hq
      exact hq (by decide)
    · rfl
  rw [containerHere?_eq, hskip, isSome_vectorHere?, afterVector_append hcs, startsContainer]
  cases hafter : after? "vector" (skipInlineNamespace (skipStd w)) with
  | none => rfl
  | some rest =>
      have hrest : ∀ c ∈ rest, isBlank c = false := by
        intro c hc
        have hsuffix := (suffix_of_after? hafter).trans
          ((skipInlineNamespace_suffix (skipStd w)).trans (skipStd_suffix w))
        exact hw.2 c (hsuffix.mem hc)
      simp [head?_dropBlank_append hrest]

/-- **The words of a text decide whether it opens a layer.** -/
theorem isSome_openLayer? (cs : List Char) : (openLayer? cs).isSome = opensLayer (words cs) := by
  induction cs using breakInduction with
  | nil => rfl
  | blank c cs hc ih => rw [openLayer?_cons hc, words_cons_blank hc, ih]
  | word w cs hw hcs ih =>
      rw [words_append_of_breaks hw hcs, opensLayer]
      split
      · rename_i hq
        rw [openLayer?_qualifier (by simpa using hq) hcs, ih]
      · rename_i hq
        rw [openLayer?_word hw (by simpa using hq) hcs,
          isSome_containerHere? hw (by simpa using hq) hcs]

theorem openLayer?_eq_none_iff (cs : List Char) :
    openLayer? cs = none ↔ opensLayer (words cs) = false := by
  rw [← isSome_openLayer?, Option.isSome_eq_false_iff, Option.isNone_iff_eq_none]

/-! ### What opens no layer -/

theorem startsContainer_append {ws : List (List Char)} (h : startsContainer w ws = true)
    (rest : List (List Char)) : startsContainer w (ws ++ rest) = true := by
  unfold startsContainer at h ⊢
  split at h
  · rename_i after hafter
    cases after with
    | nil =>
        cases ws with
        | nil => simp at h
        | cons v ws => exact h
    | cons c after => exact h
  · simp at h

/-- More words do not undo a layer. -/
theorem opensLayer_append {ws : List (List Char)} (h : opensLayer ws = true)
    (rest : List (List Char)) : opensLayer (ws ++ rest) = true := by
  induction ws with
  | nil => simp [opensLayer] at h
  | cons w ws ih =>
      rw [opensLayer] at h
      rw [List.cons_append, opensLayer]
      split at h
      · rename_i hq
        rw [if_pos hq]
        exact ih h
      · rename_i hq
        rw [if_neg hq]
        exact startsContainer_append h rest

theorem opensLayer_dropWhile (ws : List (List Char)) :
    opensLayer (ws.dropWhile leadingQualifiers.contains) = opensLayer ws := by
  induction ws with
  | nil => rfl
  | cons w ws ih =>
      rw [List.dropWhile_cons, opensLayer]
      split
      · exact ih
      · rename_i hq
        rw [opensLayer, if_neg hq]

/-- **What is stripped opens no layer that was none.** -/
theorem openLayer?_stripQualifiers (h : openLayer? cs = none) :
    openLayer? (stripQualifiers cs) = none := by
  rw [openLayer?_eq_none_iff] at h ⊢
  rw [words_stripQualifiers, Bool.eq_false_iff]
  intro hopens
  obtain ⟨rest, hrest⟩ := stripWords_isPrefix (words cs)
  have hmore := opensLayer_append hopens rest
  rw [hrest, opensLayer_dropWhile, h] at hmore
  exact Bool.noConfusion hmore

/-- A text that is cut off goes on with a comma or a closing bracket. -/
theorem exists_isEnd_of_boundaryFrom_lt {depth : Int} (h : boundaryFrom depth cs < cs.length) :
    ∃ c rest, IsEnd c ∧ cs = cs.take (boundaryFrom depth cs) ++ c :: rest := by
  induction cs generalizing depth with
  | nil => simp at h
  | cons c cs ih =>
      have hlater : ∀ depth, boundaryFrom depth cs + 1 < (c :: cs).length → ∃ d rest, IsEnd d ∧
          c :: cs = (c :: cs).take (boundaryFrom depth cs + 1) ++ d :: rest := by
        intro depth hlt
        obtain ⟨d, rest, hd, hcs⟩ := ih (Nat.lt_of_succ_lt_succ hlt)
        refine ⟨d, rest, hd, ?_⟩
        rw [List.take_succ_cons, List.cons_append, ← hcs]
      rw [boundaryFrom] at h ⊢
      split_ifs at h ⊢ with hopen hclose hbracket hdepth hcomma
      · exact hlater _ h
      · exact hlater _ h
      · exact ⟨c, cs, .inr (by simpa using hbracket), rfl⟩
      · exact hlater _ h
      · rw [Bool.and_eq_true] at hcomma
        exact ⟨c, cs, .inl (by simpa using hcomma.1), rfl⟩
      · exact hlater _ h

/-- **What is cut off opens no layer that was none.** -/
theorem openLayer?_take (h : openLayer? cs = none) :
    openLayer? (cs.take (boundaryFrom 0 cs)) = none := by
  rcases Nat.lt_or_ge (boundaryFrom 0 cs) cs.length with hlt | hge
  · obtain ⟨c, rest, hc, hcs⟩ := exists_isEnd_of_boundaryFrom_lt hlt
    generalize cs.take (boundaryFrom 0 cs) = front at hcs
    subst hcs
    unfold openLayer? at h ⊢
    cases hfound : findContainer false front with
    | none => rfl
    | some found =>
        obtain ⟨before, inner⟩ := found
        rw [findContainer_append_of_some hc hfound] at h
        simpa using h
  · rwa [List.take_of_length_le hge]

/-! ### Splitting again -/

/-- What the splitting ends with is a stripped text that opens no layer. -/
theorem exists_of_splitContainer (cs : List Char) :
    ∃ text, (splitContainer cs).2 = stripQualifiers text ∧ openLayer? text = none := by
  have hnone := openLayer?_splitLayers (trimBlank cs)
  unfold splitContainer
  split
  · rename_i text hsplit
    rw [hsplit] at hnone
    exact ⟨text, rfl, hnone⟩
  · rename_i depth text hsplit
    rw [hsplit] at hnone
    exact ⟨_, rfl, openLayer?_take hnone⟩

/-- Blanks at the ends of a text do not matter. -/
theorem openLayer?_trimBlank_eq_none_iff (cs : List Char) :
    openLayer? (trimBlank cs) = none ↔ openLayer? cs = none := by
  rw [openLayer?_eq_none_iff, openLayer?_eq_none_iff, words_trimBlank]

/-- A text that opens no layer is its own element. -/
theorem splitContainer_of_openLayer?_eq_none (h : openLayer? cs = none) :
    splitContainer cs = (0, stripQualifiers cs) := by
  rw [splitContainer,
    splitLayers_of_openLayer?_eq_none ((openLayer?_trimBlank_eq_none_iff cs).2 h)]
  exact congrArg (Prod.mk 0) (stripQualifiers_congr (words_trimBlank cs))

/-- **Splitting the element again changes nothing**, whatever the text was.  The element has single
spaces between its words, no qualifiers at its ends, and no container at its start. -/
theorem splitContainer_element (cs : List Char) :
    ∃ depth element, splitContainer cs = (depth, element) ∧
      splitContainer element = (0, element) ∧ unwords (words element) = element ∧
      (∀ w ∈ (words element).head?, w ∉ leadingQualifiers) ∧
      (∀ w ∈ (words element).getLast?, w ∉ trailingQualifiers) ∧
      containerHere? element = none := by
  obtain ⟨text, helement, hnone⟩ := exists_of_splitContainer cs
  have hopens : openLayer? (stripQualifiers text) = none := openLayer?_stripQualifiers hnone
  have hwords := words_stripQualifiers text
  refine ⟨(splitContainer cs).1, stripQualifiers text, ?_, ?_, ?_, ?_, ?_, ?_⟩
  · rw [← helement]
  · rw [splitContainer_of_openLayer?_eq_none hopens, stripQualifiers_stripQualifiers]
  · rw [hwords, stripQualifiers]
  · rw [hwords]
    exact notMem_of_head?_stripWords _
  · rw [hwords]
    exact notMem_of_getLast?_stripWords _
  · cases hhere : containerHere? (stripQualifiers text) with
    | none => rfl
    | some inner =>
        rw [openLayer?_of_containerHere? hhere] at hopens
        simp at hopens

/-- An unclosed vector behind qualifiers, with a comma inside the brackets of its element. -/
example : splitContainer "const  vector< pair<int,  int> const".toList =
    (1, "pair<int, int>".toList) := by decide +kernel

end TeachingTree.Signature

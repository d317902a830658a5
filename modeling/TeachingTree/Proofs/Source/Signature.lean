/-
**Splitting a signature layer by layer.**

A signature of nested vectors is opened from the outside: a layer is opened where a container starts
the text, and what is left is the text from its element on, with all that follows the element.  So
the opening never looks at what follows, as long as it starts with a comma or a closing bracket:
no part of the start of a container is one of these.  A text behind which a container might start is
cut off there.

Main definitions:

* `Signature.IsEnd` — the characters that end an element;
* `Signature.Severs` — the characters that are in no name;
* `Signature.IsVectorSpelling` — how a vector is spelled, given the spelling of its elements.

Main results:

* `Signature.containerHere?_append`, `Signature.findContainer_append_of_some` — what follows an
  element does not matter for the containers in it;
* `Signature.splitLayers_of_start` — a container at the start of a text is a layer;
* `Signature.splitLayers_append` — **an element that opens no layer by itself opens none with what
  follows it**;
* `Signature.splitLayers_vector` — a vector is a layer around its elements.
-/

import Mathlib.Tactic.SplitIfs
import TeachingTree.Source.Signature

set_option relaxedAutoImplicit false
set_option autoImplicit false

namespace TeachingTree

namespace Text

/-- What a test says about all characters of a text holds of each of them. -/
theorem forall_mem_of_all {p : Char → Prop} [DecidablePred p] {cs : List Char}
    (h : cs.all (fun c => decide (p c)) = true) : ∀ c ∈ cs, p c := by simpa using h

/-- A start without a character is found in front of that character or not at all. -/
theorem dropStart?_append {start : List Char} {c : Char} (hc : c ∉ start) (cs rest : List Char) :
    dropStart? start (cs ++ c :: rest) = (dropStart? start cs).map (· ++ c :: rest) := by
  induction start generalizing cs with
  | nil => rfl
  | cons s start ih =>
      rw [List.mem_cons, not_or] at hc
      cases cs with
      | nil => simp [dropStart?, Ne.symm hc.1]
      | cons d cs =>
          simp only [List.cons_append, dropStart?]
          split
          · exact ih hc.2 cs
          · rfl

/-- Blanks in front of a character that is none stay in front of it. -/
theorem dropBlank_append {c : Char} (hc : isBlank c = false) (cs rest : List Char) :
    dropBlank (cs ++ c :: rest) = dropBlank cs ++ c :: rest := by
  induction cs with
  | nil => simp [dropBlank, hc]
  | cons d cs ih =>
      simp only [dropBlank, List.cons_append, List.dropWhile_cons] at ih ⊢
      split
      · exact ih
      · rfl

theorem dropBlank_eq_self {cs : List Char} (h : cs.head?.any isBlank = false) :
    dropBlank cs = cs := by
  cases cs with
  | nil => rfl
  | cons c cs => exact List.dropWhile_cons_of_neg (by simpa using h)

/-- A text without blanks at its ends stays as it is. -/
theorem trimBlank_eq_self {cs : List Char} (hhead : cs.head?.any isBlank = false)
    (hlast : cs.getLast?.any isBlank = false) : trimBlank cs = cs := by
  rw [← List.head?_reverse] at hlast
  rw [trimBlank, dropBlank_eq_self hhead, dropBlank_eq_self hlast, List.reverse_reverse]

end Text

namespace Signature

open Text

/-! ### Ends of elements -/

/-- The characters that end an element: a comma or a closing bracket. -/
def IsEnd (c : Char) : Prop := c = ',' ∨ c = '>'

variable {c : Char}

theorem IsEnd.isBlank (h : IsEnd c) : isBlank c = false := by
  rcases h with rfl | rfl <;> decide

theorem IsEnd.isWordChar (h : IsEnd c) : isWordChar c = false := by
  rcases h with rfl | rfl <;> decide

theorem IsEnd.ne (h : IsEnd c) {d : Char} (hd : d ≠ ',' ∧ d ≠ '>') : c ≠ d := by
  rintro rfl
  rcases h with h | h
  · exact hd.1 h
  · exact hd.2 h

/-- No word of the start of a container has a character that ends an element. -/
theorem IsEnd.after?_append (h : IsEnd c) {start : String}
    (hstart : ',' ∉ start.toList ∧ '>' ∉ start.toList)
    (cs rest : List Char) :
    after? start (cs ++ c :: rest) = (after? start cs).map (· ++ c :: rest) := by
  refine dropStart?_append ?_ cs rest
  rcases h with rfl | rfl
  · exact hstart.1
  · exact hstart.2

/-- The characters that are in no name with its scopes: neither of a word nor a colon. -/
def Severs (c : Char) : Prop := isWordChar c = false ∧ c ≠ ':'

theorem IsEnd.severs (h : IsEnd c) : Severs c := ⟨h.isWordChar, h.ne (by decide)⟩

theorem Severs.ne (h : Severs c) {d : Char} (hd : isWordChar d = true ∨ d = ':') : c ≠ d := by
  rintro rfl
  rcases hd with hd | hd
  · rw [h.1] at hd
    exact Bool.noConfusion hd
  · exact h.2 hd

/-- A part of a name is found in front of such a character or not at all. -/
theorem Severs.after?_append (h : Severs c) {start : String}
    (hstart : ∀ d ∈ start.toList, isWordChar d = true ∨ d = ':') (cs rest : List Char) :
    after? start (cs ++ c :: rest) = (after? start cs).map (· ++ c :: rest) :=
  dropStart?_append (fun hc => h.ne (hstart c hc) rfl) cs rest

/-! ### The start of a container -/

theorem skipClass_append (h : IsEnd c) (cs rest : List Char) :
    skipClass (cs ++ c :: rest) = skipClass cs ++ c :: rest := by
  unfold skipClass
  rw [h.after?_append (by decide)]
  cases after? "class" cs with
  | none => rfl
  | some after =>
      cases after with
      | nil => simp [h.isBlank]
      | cons d after =>
          simp only [Option.map_some, List.cons_append]
          split
          · exact dropBlank_append h.isBlank after rest
          · rfl

theorem skipStd_append (h : Severs c) (cs rest : List Char) :
    skipStd (cs ++ c :: rest) = skipStd cs ++ c :: rest := by
  unfold skipStd
  rw [h.after?_append (forall_mem_of_all (by decide))]
  cases after? "std::" cs <;> rfl

theorem takeWhile_append_of_isWordChar (h : isWordChar c = false) (cs rest : List Char) :
    (cs ++ c :: rest).takeWhile isWordChar = cs.takeWhile isWordChar ∧
      (cs ++ c :: rest).dropWhile isWordChar = cs.dropWhile isWordChar ++ c :: rest := by
  induction cs with
  | nil => simp [h]
  | cons d cs ih =>
      simp only [List.cons_append, List.takeWhile_cons, List.dropWhile_cons]
      split
      · exact ⟨congrArg _ ih.1, ih.2⟩
      · exact ⟨rfl, rfl⟩

theorem skipInlineNamespace_of_ne {cs : List Char} (h : ∀ rest, cs ≠ '_' :: '_' :: rest) :
    skipInlineNamespace cs = cs := by
  unfold skipInlineNamespace
  split
  · rename_i rest
    exact absurd rfl (h rest)
  · rfl

theorem skipInlineNamespace_append (h : Severs c) (cs rest : List Char) :
    skipInlineNamespace (cs ++ c :: rest) = skipInlineNamespace cs ++ c :: rest := by
  have hunderscore : c ≠ '_' := h.ne (.inl (by decide))
  have hcolon : c ≠ ':' := h.2
  by_cases hcs : ∃ name, cs = '_' :: '_' :: name
  · obtain ⟨name, rfl⟩ := hcs
    obtain ⟨htake, hdrop⟩ := takeWhile_append_of_isWordChar h.1 name rest
    simp only [skipInlineNamespace, List.cons_append, htake, hdrop]
    -- a namespace is left only in front of two colons
    rcases name.takeWhile isWordChar with _ | ⟨d, word⟩
    · rfl
    rcases name.dropWhile isWordChar with _ | ⟨first, _ | ⟨second, after⟩⟩
    · simp [hcolon]
    · simp [hcolon]
    · simp only [List.cons_append]
      split <;> rename_i heq
      · simp only [List.cons.injEq] at heq
        obtain ⟨rfl, rfl, rfl⟩ := heq
        rfl
      · split
        · rename_i after' heq'
          simp only [List.cons.injEq] at heq'
          obtain ⟨rfl, rfl, rfl⟩ := heq'
          exact absurd rfl (heq _ _ _ rfl)
        · rfl
  · have hshort : ∀ name, cs ++ c :: rest ≠ '_' :: '_' :: name := by
      rintro name heq
      rcases cs with _ | ⟨d, _ | ⟨e, cs⟩⟩
      · exact hunderscore (List.cons.inj heq).1
      · exact hunderscore (List.cons.inj (List.cons.inj heq).2).1
      · simp only [List.cons_append, List.cons.injEq] at heq
        exact hcs ⟨cs, by rw [heq.1, heq.2.1]⟩
    rw [skipInlineNamespace_of_ne hshort, skipInlineNamespace_of_ne fun name heq => hcs ⟨name, heq⟩]

/-- **A container starts at a place whatever follows the element that the place is in.** -/
theorem containerHere?_append (h : IsEnd c) (cs rest : List Char) :
    containerHere? (cs ++ c :: rest) = (containerHere? cs).map (· ++ c :: rest) := by
  unfold containerHere?
  rw [skipClass_append h, skipStd_append h.severs, skipInlineNamespace_append h.severs,
    h.after?_append (by decide)]
  cases after? "vector" (skipInlineNamespace (skipStd (skipClass cs))) with
  | none => rfl
  | some after =>
      simp only [Option.map_some, dropBlank_append h.isBlank]
      cases dropBlank after with
      | nil =>
          have hbracket : c ≠ '<' := h.ne (by decide)
          simp [hbracket]
      | cons d after =>
          simp only [List.cons_append]
          split <;> rename_i heq
          · simp only [List.cons.injEq] at heq
            obtain ⟨rfl, rfl⟩ := heq
            rfl
          · split
            · rename_i inner heq'
              simp only [List.cons.injEq] at heq'
              obtain ⟨rfl, rfl⟩ := heq'
              exact absurd rfl (heq _)
            · rfl

/-! ### The first container -/

/-- The first container of an element is the first one with what follows the element, too. -/
theorem findContainer_append_of_some (h : IsEnd c) {inWord : Bool} {cs before inner : List Char}
    (hcs : findContainer inWord cs = some (before, inner)) (rest : List Char) :
    findContainer inWord (cs ++ c :: rest) = some (before, inner ++ c :: rest) := by
  induction cs generalizing inWord before with
  | nil => simp [findContainer] at hcs
  | cons d cs ih =>
      have hhere := containerHere?_append h (d :: cs) rest
      rw [List.cons_append] at hhere
      rw [findContainer] at hcs
      rw [List.cons_append, findContainer]
      cases inWord with
      | true =>
          simp only [if_true, Option.map_eq_some_iff, Prod.exists, Prod.mk.injEq] at hcs ⊢
          obtain ⟨before', inner', hfound, rfl, rfl⟩ := hcs
          exact ⟨before', _, ih hfound, rfl, rfl⟩
      | false =>
          simp only [Bool.false_eq_true, if_false] at hcs ⊢
          rw [hhere]
          cases hfound : containerHere? (d :: cs) with
          | some inner' =>
              rw [hfound] at hcs
              simp only [Option.some.injEq, Prod.mk.injEq] at hcs
              rw [← hcs.1, ← hcs.2]
              rfl
          | none =>
              rw [hfound] at hcs
              simp only [Option.map_eq_some_iff, Prod.exists, Prod.mk.injEq, Option.map_none]
                at hcs ⊢
              obtain ⟨before', inner', hfound', rfl, rfl⟩ := hcs
              exact ⟨before', _, ih hfound', rfl, rfl⟩

/-- If an element has no container, the first one comes after it. -/
theorem length_le_of_findContainer_append (h : IsEnd c) {inWord : Bool} {cs : List Char}
    (hcs : findContainer inWord cs = none) {rest before inner : List Char}
    (hfound : findContainer inWord (cs ++ c :: rest) = some (before, inner)) :
    cs.length ≤ before.length := by
  induction cs generalizing inWord before with
  | nil => exact Nat.zero_le _
  | cons d cs ih =>
      have hhere := containerHere?_append h (d :: cs) rest
      rw [List.cons_append] at hhere
      rw [findContainer] at hcs
      rw [List.cons_append, findContainer] at hfound
      have hnone : (if inWord then none else containerHere? (d :: cs)) = none := by
        split at hcs
        · simp at hcs
        · assumption
      have hnone' : (if inWord then none else containerHere? (d :: (cs ++ c :: rest))) = none := by
        cases inWord with
        | true => rfl
        | false =>
            simp only [Bool.false_eq_true, if_false] at hnone ⊢
            rw [hhere, hnone]
            rfl
      rw [hnone] at hcs
      rw [hnone'] at hfound
      simp only [Option.map_eq_none_iff] at hcs
      simp only [Option.map_eq_some_iff, Prod.exists, Prod.mk.injEq] at hfound
      obtain ⟨before', inner', hfound', rfl, rfl⟩ := hfound
      exact Nat.succ_le_succ (ih hcs hfound')

/-! ### Layers -/

/-- A text opens no layer if no container starts it, or only behind what it is cut off at. -/
theorem splitLayers_of_closed {cs : List Char}
    (h : ∀ before inner, findContainer false cs = some (before, inner) →
      (stripQualifiers before).isEmpty = true → boundaryFrom 0 cs ≤ before.length) :
    splitLayers cs = (0, cs) := by
  rw [splitLayers]
  split
  · rename_i before inner hfound
    rw [if_neg]
    rw [Bool.and_eq_true, decide_eq_true_eq]
    rintro ⟨hempty, hlt⟩
    exact absurd (h before inner hfound hempty) (Nat.not_le.2 hlt)
  · rfl

/-- A container at the start of a text is a layer. -/
theorem splitLayers_of_start {cs inner : List Char} (h : findContainer false cs = some ([], inner))
    (hcs : 0 < boundaryFrom 0 cs) :
    splitLayers cs = ((splitLayers inner).1 + 1, (splitLayers inner).2) := by
  rw [splitLayers]
  split
  · rename_i before inner' hfound
    rw [h, Option.some.injEq, Prod.mk.injEq] at hfound
    obtain ⟨rfl, rfl⟩ := hfound
    rw [if_pos]
    rw [Bool.and_eq_true, decide_eq_true_eq]
    exact ⟨rfl, hcs⟩
  · rename_i hnone
    rw [h] at hnone
    simp at hnone

/-- **An element that opens no layer by itself opens none with what follows it**, if the text is cut
off right behind the element. -/
theorem splitLayers_append (h : IsEnd c) {cs : List Char} (hlayers : (splitLayers cs).1 = 0)
    (hcs : boundaryFrom 0 cs = cs.length) {rest : List Char}
    (hboundary : boundaryFrom 0 (cs ++ c :: rest) = cs.length) :
    splitLayers (cs ++ c :: rest) = (0, cs ++ c :: rest) := by
  refine splitLayers_of_closed fun before inner hfound hempty => ?_
  rw [hboundary]
  cases hown : findContainer false cs with
  | none => exact length_le_of_findContainer_append h hown hfound
  | some own =>
      obtain ⟨before', inner'⟩ := own
      rw [findContainer_append_of_some h hown, Option.some.injEq, Prod.mk.injEq] at hfound
      obtain ⟨rfl, rfl⟩ := hfound
      -- a container in the element would have been a layer of the element
      refine Nat.le_of_not_lt fun hlt => ?_
      rw [splitLayers] at hlayers
      split at hlayers
      · rename_i before'' inner'' hfound
        rw [hown, Option.some.injEq, Prod.mk.injEq] at hfound
        obtain ⟨rfl, rfl⟩ := hfound
        rw [if_pos (by rw [Bool.and_eq_true, decide_eq_true_eq, hcs]; exact ⟨hempty, hlt⟩)]
          at hlayers
        exact absurd hlayers (Nat.succ_ne_zero _)
      · rename_i hnone
        rw [hown] at hnone
        simp at hnone

/-! ### Texts without containers -/

theorem suffix_of_after? {start : String} {cs rest : List Char} (h : after? start cs = some rest) :
    rest <:+ cs := ⟨start.toList, (dropStart?_eq_some_iff.1 h).symm⟩

theorem dropBlank_suffix (cs : List Char) : dropBlank cs <:+ cs := List.dropWhile_suffix _

theorem skipClass_suffix (cs : List Char) : skipClass cs <:+ cs := by
  unfold skipClass
  split
  · rename_i d rest hafter
    split
    · exact (dropBlank_suffix rest).trans ((List.suffix_cons ..).trans (suffix_of_after? hafter))
    · exact List.suffix_rfl
  · exact List.suffix_rfl

theorem skipStd_suffix (cs : List Char) : skipStd cs <:+ cs := by
  unfold skipStd
  cases hafter : after? "std::" cs with
  | none => exact List.suffix_rfl
  | some rest => exact suffix_of_after? hafter

theorem skipInlineNamespace_suffix (cs : List Char) : skipInlineNamespace cs <:+ cs := by
  unfold skipInlineNamespace
  split
  · rename_i name
    split
    · rename_i rest _ hdrop
      have hname : ':' :: ':' :: rest <:+ name := hdrop ▸ List.dropWhile_suffix _
      have hrest : rest <:+ ':' :: ':' :: rest := (List.suffix_cons ..).trans (List.suffix_cons ..)
      exact (hrest.trans hname).trans ((List.suffix_cons ..).trans (List.suffix_cons ..))
    · exact List.suffix_rfl
  · exact List.suffix_rfl

/-- The start of a container has the word `vector` and an opening bracket. -/
theorem mem_of_containerHere? {cs inner : List Char} (h : containerHere? cs = some inner) :
    'v' ∈ cs ∧ '<' ∈ cs := by
  have hstart := (skipInlineNamespace_suffix (skipStd (skipClass cs))).trans
    ((skipStd_suffix (skipClass cs)).trans (skipClass_suffix cs))
  unfold containerHere? at h
  split at h
  · rename_i rest hafter
    have hword := (dropStart?_eq_some_iff.1 hafter) ▸ hstart
    refine ⟨hword.mem (by simp), ?_⟩
    split at h
    · rename_i inner' hdrop
      have hbracket : '<' ∈ dropBlank rest := by rw [hdrop]; exact List.mem_cons_self ..
      have hrest := (dropBlank_suffix rest).mem hbracket
      exact hword.mem (List.mem_append_right _ hrest)
    · simp at h
  · simp at h

/-- A text without the letter `v`, or without an opening bracket, has no container. -/
theorem findContainer_eq_none {cs : List Char} (h : 'v' ∉ cs ∨ '<' ∉ cs) (inWord : Bool) :
    findContainer inWord cs = none := by
  induction cs generalizing inWord with
  | nil => rfl
  | cons c cs ih =>
      have hcs : 'v' ∉ cs ∨ '<' ∉ cs :=
        h.imp (mt (List.mem_cons_of_mem c)) (mt (List.mem_cons_of_mem c))
      have hhere : containerHere? (c :: cs) = none := by
        refine Option.eq_none_iff_forall_ne_some.2 fun inner hinner => ?_
        obtain ⟨hletter, hbracket⟩ := mem_of_containerHere? hinner
        exact h.elim (absurd hletter) (absurd hbracket)
      rw [findContainer, hhere, ih hcs]
      simp

theorem splitLayers_of_findContainer_eq_none {cs : List Char} (h : findContainer false cs = none) :
    splitLayers cs = (0, cs) :=
  splitLayers_of_closed fun before inner hfound => by simp [h] at hfound

theorem trimBlank_subset (cs : List Char) : ∀ c ∈ trimBlank cs, c ∈ cs := by
  intro c hc
  rw [trimBlank, List.mem_reverse] at hc
  have hinner := (dropBlank_suffix _).mem hc
  exact (dropBlank_suffix cs).mem (List.mem_reverse.1 hinner)

/-- Such a text is no container. -/
theorem splitContainer_eq {cs : List Char} (h : 'v' ∉ cs ∨ '<' ∉ cs) :
    splitContainer cs = (0, stripQualifiers (trimBlank cs)) := by
  have htrim : 'v' ∉ trimBlank cs ∨ '<' ∉ trimBlank cs :=
    h.imp (mt (trimBlank_subset cs _)) (mt (trimBlank_subset cs _))
  rw [splitContainer, splitLayers_of_findContainer_eq_none (findContainer_eq_none htrim false)]

/-! ### Boundaries -/

/-- A boundary inside a text stays where it is, whatever follows the text. -/
theorem boundaryFrom_append {depth : Int} {cs : List Char} (h : boundaryFrom depth cs < cs.length)
    (rest : List Char) : boundaryFrom depth (cs ++ rest) = boundaryFrom depth cs := by
  induction cs generalizing depth with
  | nil => simp at h
  | cons c cs ih =>
      rw [List.cons_append]
      simp only [boundaryFrom, List.length_cons] at h ⊢
      split_ifs at h ⊢ <;> first | rfl | rw [ih (by omega)]

/-- Blanks and the characters of words are no brackets and no commas. -/
theorem notMem_marks {d : Char} (h : isBlank d = true ∨ isWordChar d = true) :
    d ∉ ['<', '(', '[', ')', ']', '>', ','] := by
  have hmarks : ∀ m ∈ ['<', '(', '[', ')', ']', '>', ','],
      isBlank m = false ∧ isWordChar m = false := forall_mem_of_all (by decide)
  intro hmem
  obtain ⟨hblank, hword⟩ := hmarks d hmem
  rw [hblank, hword] at h
  rcases h with h | h
  · exact Bool.noConfusion h
  · exact Bool.noConfusion h

/-- There is no boundary in a text without brackets and commas. -/
theorem boundaryFrom_plain_append {depth : Int} {cs : List Char}
    (h : ∀ d ∈ cs, d ∉ ['<', '(', '[', ')', ']', '>', ',']) (rest : List Char) :
    boundaryFrom depth (cs ++ rest) = cs.length + boundaryFrom depth rest := by
  induction cs with
  | nil => simp
  | cons d cs ih =>
      have hd := h d (List.mem_cons_self ..)
      simp only [List.mem_cons, List.not_mem_nil, or_false, not_or] at hd
      rw [List.cons_append, boundaryFrom, ih fun e he => h e (List.mem_cons_of_mem _ he)]
      simp [hd]
      omega

theorem boundaryFrom_isEnd (h : IsEnd c) (rest : List Char) : boundaryFrom 0 (c :: rest) = 0 := by
  rcases h with rfl | rfl <;> rfl

/-! ### Vectors -/

/-- The spellings of a vector by the spelling of its elements: with or without its allocator. -/
def IsVectorSpelling (spelling element : String) : Prop :=
  spelling = "std::vector<" ++ element ++ ">" ∨
    spelling = "std::vector<" ++ element ++ ", std::allocator<" ++ element ++ "> >"

/-- The element of a vector stands behind its opening bracket and before a comma or the closing
one. -/
theorem IsVectorSpelling.toList {spelling element : String}
    (h : IsVectorSpelling spelling element) :
    ∃ c rest, IsEnd c ∧
      spelling.toList = "std::vector<".toList ++ (element.toList ++ c :: rest) := by
  rcases h with rfl | rfl
  · exact ⟨'>', [], .inr rfl, by simp⟩
  · exact ⟨',', " std::allocator<".toList ++ (element.toList ++ "> >".toList), .inl rfl, by simp⟩

/-- There are no blanks at the ends of the spelling of a vector. -/
theorem IsVectorSpelling.trimBlank {spelling element : String}
    (h : IsVectorSpelling spelling element) : trimBlank spelling.toList = spelling.toList := by
  rcases h with rfl | rfl
  all_goals
    simp only [String.toList_append, List.append_assoc]
    refine trimBlank_eq_self rfl ?_
    simp only [List.getLast?_append]
    rfl

theorem findContainer_vector (inner : List Char) :
    findContainer false ("std::vector<".toList ++ inner) = some ([], inner) := rfl

theorem boundaryFrom_vector_pos (inner : List Char) :
    0 < boundaryFrom 0 ("std::vector<".toList ++ inner) := by
  have hstart : "std::vector<".toList = 's' :: "td::vector<".toList := rfl
  rw [hstart, List.cons_append, boundaryFrom]
  simp only [Char.reduceBEq, Bool.or_self, Bool.false_and, Bool.false_eq_true, if_false]
  exact Nat.succ_pos _

/-- A vector is one layer more than its elements. -/
theorem splitLayers_vector (inner : List Char) :
    splitLayers ("std::vector<".toList ++ inner) =
      ((splitLayers inner).1 + 1, (splitLayers inner).2) :=
  splitLayers_of_start (findContainer_vector inner) (boundaryFrom_vector_pos inner)

end Signature

end TeachingTree

/-
**Layers of vectors around an element.**

A vector may be written in many ways: behind qualifiers, in the namespace `std` or not, in a further
namespace of the library, with blanks before its brackets, with or without the arguments that follow
its elements.  A layer is one such way, and an element inside some layers is the signature of a
vector of vectors.  Splitting takes the layers off again, however they are written, and gives the
element back without its qualifiers.

The element itself may be any text that is not cut off in its middle and ends at the level of
brackets at which it starts, unless it is a vector itself.  What follows it is never read: a comma
or a bracket behind it ends it, and no container that starts further on can be one of its layers.

Main definitions:

* `Signature.levelFrom`, `Signature.IsClosed` — the level of brackets behind a text, and the texts
  that are not cut off and come back to the level at which they start;
* `Signature.IsQualification` — qualifiers, each in front of blanks;
* `Signature.Layer` — a way to write a vector, and `Layer.wrap`, `Signature.wrapAll`, the texts of
  vectors;
* `Signature.Follows` — what may stand behind an element.

Main results:

* `Signature.openLayer?_opening` — the start of a layer is the start of a container;
* `Signature.splitLayers_wrapAll` — the layers around an element are opened, whatever follows;
* `Signature.splitContainer_wrapAll` — **splitting takes all layers off and leaves the element**.
-/

import TeachingTree.Proofs.Source.Opening

set_option relaxedAutoImplicit false
set_option autoImplicit false

namespace TeachingTree.Signature

open Text

/-! ### Closed texts -/

/-- The level of brackets behind a text that starts at the given level, unless a comma or a closing
bracket at level zero cuts the text off. -/
def levelFrom (level : Int) : List Char → Option Int
  | [] => some level
  | c :: rest =>
    if c == '<' || c == '(' || c == '[' then levelFrom (level + 1) rest
    else if c == ')' || c == ']' then levelFrom (level - 1) rest
    else if c == '>' then if level = 0 then none else levelFrom (level - 1) rest
    else if c == ',' && level == 0 then none
    else levelFrom level rest

/-- A text that is not cut off and comes back to level zero. -/
def IsClosed (cs : List Char) : Prop := levelFrom 0 cs = some 0

instance (cs : List Char) : Decidable (IsClosed cs) :=
  inferInstanceAs (Decidable (levelFrom 0 cs = some 0))

/-- A text that is not cut off before its end is cut off where the text behind it is. -/
theorem boundaryFrom_of_levelFrom {level after : Int} {cs : List Char}
    (h : levelFrom level cs = some after) (rest : List Char) :
    boundaryFrom level (cs ++ rest) = cs.length + boundaryFrom after rest := by
  induction cs generalizing level with
  | nil =>
      rw [levelFrom, Option.some.injEq] at h
      simp [h]
  | cons c cs ih =>
      rw [levelFrom] at h
      rw [List.cons_append, boundaryFrom, List.length_cons]
      split_ifs at h ⊢
      all_goals
        rw [ih h]
        omega

/-! ### Layers -/

/-- Qualifiers in any order, each in front of blanks. -/
inductive IsQualification : List Char → Prop where
  | nil : IsQualification []
  | blank {c : Char} {cs : List Char} (hc : isBlank c = true) (h : IsQualification cs) :
      IsQualification (c :: cs)
  | word {w cs : List Char} {c : Char} (hw : w ∈ leadingQualifiers) (hc : isBlank c = true)
      (h : IsQualification cs) : IsQualification (w ++ c :: cs)

/-- A way to write a vector around its elements. -/
structure Layer where
  /-- The qualifiers in front of the name, the word `class` among them. -/
  qualification : List Char
  /-- Whether the name stands in the namespace `std`. -/
  inStd : Bool
  /-- The word of a namespace of the library that starts with two underscores. -/
  inlineNamespace : Option (List Char)
  /-- The blanks between the name and the opening bracket. -/
  gap : List Char
  /-- What stands behind a comma after the elements, such as the allocator.  It may be any text. -/
  arguments : Option (List Char)
  /-- The blanks before the closing bracket. -/
  lastGap : List Char
  isQualification : IsQualification qualification
  isWord : ∀ w ∈ inlineNamespace, w ≠ [] ∧ ∀ c ∈ w, isWordChar c = true
  isGap : ∀ c ∈ gap, isBlank c = true
  isLastGap : ∀ c ∈ lastGap, isBlank c = true

namespace Layer

/-- A vector without anything that may be left out. -/
def bare : Layer where
  qualification := []
  inStd := false
  inlineNamespace := none
  gap := []
  arguments := none
  lastGap := []
  isQualification := .nil
  isWord := by simp
  isGap := by simp
  isLastGap := by simp

/-- A vector with all that may be left out, and a vector among its arguments. -/
def qualified : Layer where
  qualification := "const class ".toList
  inStd := true
  inlineNamespace := some "1".toList
  gap := " ".toList
  arguments := some " std::allocator<vector<int>>".toList
  lastGap := " ".toList
  isQualification :=
    .word (w := "const".toList) (c := ' ') (by decide) (by decide)
      (.word (w := "class".toList) (c := ' ') (by decide) (by decide) .nil)
  isWord := by
    rintro w ⟨rfl⟩
    exact ⟨by decide, forall_mem_of_all (by decide)⟩
  isGap := forall_mem_of_all (by decide)
  isLastGap := forall_mem_of_all (by decide)

/-- The namespaces in front of the name. -/
def namespaces (layer : Layer) : List Char :=
  (if layer.inStd then "std::".toList else []) ++
    match layer.inlineNamespace with
    | some w => "__".toList ++ (w ++ "::".toList)
    | none => []

/-- What stands in front of the elements. -/
def opening (layer : Layer) : List Char :=
  layer.qualification ++ (layer.namespaces ++ ("vector".toList ++ (layer.gap ++ ['<'])))

/-- What stands behind the elements. -/
def closing (layer : Layer) : List Char :=
  (match layer.arguments with
    | some arguments => ',' :: arguments
    | none => []) ++ (layer.lastGap ++ ['>'])

/-- The text of a vector of the given elements. -/
def wrap (layer : Layer) (elements : List Char) : List Char :=
  layer.opening ++ (elements ++ layer.closing)

end Layer

/-- The text of vectors around an element, the outermost first. -/
def wrapAll (layers : List Layer) (element : List Char) : List Char :=
  layers.foldr Layer.wrap element

@[simp] theorem wrapAll_nil (element : List Char) : wrapAll [] element = element := rfl

@[simp] theorem wrapAll_cons (layer : Layer) (layers : List Layer) (element : List Char) :
    wrapAll (layer :: layers) element =
      layer.opening ++ (wrapAll layers element ++ layer.closing) := rfl

/-! ### The start of a layer -/

theorem openLayer?_qualification {q : List Char} (h : IsQualification q) (cs : List Char) :
    openLayer? (q ++ cs) = openLayer? cs := by
  induction h with
  | nil => rfl
  | blank hc _ ih => rw [List.cons_append, openLayer?_cons hc, ih]
  | word hw hc _ ih =>
      rw [List.append_assoc, List.cons_append, openLayer?_qualifier hw (breaks_cons hc _),
        openLayer?_cons hc, ih]

/-- Blanks before a character that is none are left out. -/
theorem dropBlank_gap {gap : List Char} (h : ∀ c ∈ gap, isBlank c = true) {c : Char}
    (hc : isBlank c = false) (rest : List Char) : dropBlank (gap ++ c :: rest) = c :: rest := by
  rw [dropBlank, List.dropWhile_append_of_pos h, List.dropWhile_cons_of_neg (by simp [hc])]

/-- A namespace of the library is taken off. -/
theorem skipInlineNamespace_word {w : List Char} (hne : w ≠ [])
    (hw : ∀ c ∈ w, isWordChar c = true) (rest : List Char) :
    skipInlineNamespace ("__".toList ++ (w ++ ("::".toList ++ rest))) = rest := by
  have hcolon : ¬isWordChar ':' = true := by decide
  have htake : (w ++ ("::".toList ++ rest)).takeWhile isWordChar = w := by
    rw [List.takeWhile_append_of_pos hw]
    exact List.append_right_eq_self.2 (List.takeWhile_cons_of_neg hcolon)
  have hdrop : (w ++ ("::".toList ++ rest)).dropWhile isWordChar = "::".toList ++ rest := by
    rw [List.dropWhile_append_of_pos hw]
    exact List.dropWhile_cons_of_neg hcolon
  have hstart : "__".toList ++ (w ++ ("::".toList ++ rest)) =
      '_' :: '_' :: (w ++ ("::".toList ++ rest)) := rfl
  rw [hstart, skipInlineNamespace, htake, hdrop]
  cases w with
  | nil => exact absurd rfl hne
  | cons c w => rfl

/-- The namespaces of a layer are taken off. -/
theorem skipNamespaces (layer : Layer) (rest : List Char) :
    skipInlineNamespace (skipStd (layer.namespaces ++ ("vector".toList ++ rest))) =
      "vector".toList ++ rest := by
  have hword := layer.isWord
  unfold Layer.namespaces
  cases hname : layer.inlineNamespace with
  | none =>
      cases layer.inStd with
      | false => rfl
      | true => rfl
  | some w =>
      obtain ⟨hne, hletters⟩ := hword w hname
      have hskip := skipInlineNamespace_word hne hletters ("vector".toList ++ rest)
      cases layer.inStd with
      | false =>
          have hstd : skipStd ([] ++ "__".toList ++
              (w ++ ("::".toList ++ ("vector".toList ++ rest)))) =
              "__".toList ++ (w ++ ("::".toList ++ ("vector".toList ++ rest))) := rfl
          simp only [Bool.false_eq_true, if_false, List.append_assoc] at hstd ⊢
          rw [hstd, hskip]
      | true =>
          have hstd : skipStd ("std::".toList ++
              ("__".toList ++ (w ++ ("::".toList ++ ("vector".toList ++ rest))))) =
              "__".toList ++ (w ++ ("::".toList ++ ("vector".toList ++ rest))) := rfl
          simp only [if_true, List.append_assoc]
          rw [hstd, hskip]

/-- **The start of a layer is the start of a container.** -/
theorem openLayer?_opening (layer : Layer) (rest : List Char) :
    openLayer? (layer.opening ++ rest) = some rest := by
  have hgap : dropBlank (layer.gap ++ '<' :: rest) = '<' :: rest :=
    dropBlank_gap layer.isGap (by decide) rest
  have hvector : after? "vector" ("vector".toList ++ (layer.gap ++ '<' :: rest)) =
      some (layer.gap ++ '<' :: rest) := rfl
  have hhere : vectorHere? (layer.namespaces ++ ("vector".toList ++ (layer.gap ++ '<' :: rest))) =
      some rest := by
    rw [vectorHere?, skipNamespaces, hvector]
    simp only [hgap]
  simp only [Layer.opening, List.append_assoc, List.singleton_append]
  rw [openLayer?_qualification layer.isQualification]
  exact openLayer?_of_containerHere? (containerHere?_of_vectorHere? hhere)

/-! ### What follows an element -/

/-- What may stand behind an element: blanks, then a comma or a closing bracket. -/
def Follows (tail : List Char) : Prop :=
  ∃ blanks c rest, (∀ b ∈ blanks, isBlank b = true) ∧ IsEnd c ∧ tail = blanks ++ c :: rest

theorem follows_closing (layer : Layer) (tail : List Char) : Follows (layer.closing ++ tail) := by
  unfold Layer.closing
  cases layer.arguments with
  | none => exact ⟨layer.lastGap, '>', tail, layer.isLastGap, .inr rfl, by simp⟩
  | some arguments =>
      exact ⟨[], ',', arguments ++ (layer.lastGap ++ '>' :: tail), by simp, .inl rfl, by simp⟩

variable {element : List Char}

/-- A closed element, with the blanks behind it, is what a text is cut off to. -/
theorem boundaryFrom_element {blanks : List Char} (helement : IsClosed element)
    (hblanks : ∀ b ∈ blanks, isBlank b = true) (rest : List Char) :
    boundaryFrom 0 (element ++ blanks ++ rest) =
      (element ++ blanks).length + boundaryFrom 0 rest := by
  have hplain : ∀ b ∈ blanks, b ∉ ['<', '(', '[', ')', ']', '>', ','] :=
    fun b hb => notMem_marks (.inl (hblanks b hb))
  rw [List.append_assoc, boundaryFrom_of_levelFrom helement, boundaryFrom_plain_append hplain,
    List.length_append, Nat.add_assoc]

/-- An element that opens no layer is left as it is, whatever follows. -/
theorem splitLayers_element {tail : List Char} (helement : IsClosed element)
    (hopen : openLayer? element = none) (htail : Follows tail) :
    splitLayers (element ++ tail) = (0, element ++ tail) := by
  obtain ⟨blanks, c, rest, hblanks, hc, rfl⟩ := htail
  have hown : openLayer? (element ++ blanks) = none := by
    rw [openLayer?_eq_none_iff] at hopen ⊢
    rw [words_append_blanks hblanks, hopen]
  have hlayers : (splitLayers (element ++ blanks)).1 = 0 := by
    rw [splitLayers_of_openLayer?_eq_none hown]
  have hend : boundaryFrom 0 (element ++ blanks) = (element ++ blanks).length := by
    have hnil := boundaryFrom_element helement hblanks []
    rwa [List.append_nil, boundaryFrom, Nat.add_zero] at hnil
  have hboundary : boundaryFrom 0 (element ++ blanks ++ c :: rest) =
      (element ++ blanks).length := by
    rw [boundaryFrom_element helement hblanks, boundaryFrom_isEnd hc, Nat.add_zero]
  rw [← List.append_assoc]
  exact splitLayers_append hc hlayers hend hboundary

/-- What the element is cut off to is the element. -/
theorem stripQualifiers_take_boundaryFrom {tail : List Char} (helement : IsClosed element)
    (htail : Follows tail) :
    stripQualifiers ((element ++ tail).take (boundaryFrom 0 (element ++ tail))) =
      stripQualifiers element := by
  obtain ⟨blanks, c, rest, hblanks, hc, rfl⟩ := htail
  rw [← List.append_assoc, boundaryFrom_element helement hblanks, boundaryFrom_isEnd hc,
    Nat.add_zero, List.take_left]
  exact stripQualifiers_congr (words_append_blanks hblanks element)

/-! ### All layers -/

/-- **The layers around an element are opened**, and the element is left with what follows it. -/
theorem splitLayers_wrapAll (helement : IsClosed element) (hopen : openLayer? element = none)
    (layers : List Layer) {tail : List Char} (htail : Follows tail) :
    ∃ tail', Follows tail' ∧
      splitLayers (wrapAll layers element ++ tail) = (layers.length, element ++ tail') := by
  induction layers generalizing tail with
  | nil => exact ⟨tail, htail, splitLayers_element helement hopen htail⟩
  | cons layer layers ih =>
      obtain ⟨tail', htail', hsplit⟩ := ih (follows_closing layer tail)
      have hlayer : openLayer? (wrapAll (layer :: layers) element ++ tail) =
          some (wrapAll layers element ++ (layer.closing ++ tail)) := by
        rw [wrapAll_cons, List.append_assoc, List.append_assoc, openLayer?_opening]
      refine ⟨tail', htail', ?_⟩
      rw [splitLayers_of_openLayer?_eq_some hlayer, hsplit, List.length_cons]

/-- Behind the text of a vector there are no blanks to take off. -/
theorem trimBlank_wrap (layer : Layer) (elements : List Char) :
    trimBlank (layer.wrap elements) = dropBlank (layer.wrap elements) := by
  have hend : ∃ front, layer.wrap elements = front ++ ['>'] := by
    unfold Layer.wrap Layer.closing
    rw [← List.append_assoc, ← List.append_assoc, ← List.append_assoc]
    exact ⟨_, rfl⟩
  obtain ⟨front, hfront⟩ := hend
  have hbracket : isBlank '>' = false := by decide
  rw [hfront, trimBlank, dropBlank_append hbracket, List.reverse_append, List.reverse_singleton,
    List.singleton_append, dropBlank_eq_self (by simp [hbracket]), List.reverse_cons,
    List.reverse_reverse]

/-- An element without layers opens none. -/
theorem openLayer?_of_splitContainer {cs : List Char} (h : (splitContainer cs).1 = 0) :
    openLayer? cs = none := by
  rw [← openLayer?_trimBlank_eq_none_iff]
  cases hopen : openLayer? (trimBlank cs) with
  | none => rfl
  | some inner =>
      rw [splitContainer, splitLayers_of_openLayer?_eq_some hopen] at h
      exact absurd h (Nat.succ_ne_zero _)

/-- **Splitting takes all layers off and leaves the element.** -/
theorem splitContainer_wrapAll (helement : IsClosed element)
    (hdepth : (splitContainer element).1 = 0) (layers : List Layer) :
    splitContainer (wrapAll layers element) = (layers.length, stripQualifiers element) := by
  have hopen := openLayer?_of_splitContainer hdepth
  cases layers with
  | nil => exact splitContainer_of_openLayer?_eq_none hopen
  | cons layer layers =>
      obtain ⟨tail, htail, hsplit⟩ := splitLayers_wrapAll helement hopen layers
        (List.append_nil layer.closing ▸ follows_closing layer [])
      have hlayer : openLayer? (trimBlank (wrapAll (layer :: layers) element)) =
          some (wrapAll layers element ++ layer.closing) := by
        have htrim := trimBlank_wrap layer (wrapAll layers element)
        rw [Layer.wrap, ← wrapAll_cons] at htrim
        rw [htrim, openLayer?_dropBlank, wrapAll_cons, openLayer?_opening]
      rw [splitContainer, splitLayers_of_openLayer?_eq_some hlayer, hsplit]
      simp only [stripQualifiers_take_boundaryFrom helement htail, List.length_cons]

end TeachingTree.Signature

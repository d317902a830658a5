/-
**Words and the blanks between them.**

The words of a text are its runs of characters that are not blank.  Every text is empty, or a blank
in front of a text, or a word in front of a text that breaks the word off; so a statement about all
texts has three cases, and on each of them the words are known from the words of what follows.
Which blanks stand between the words, and whether there are any at the ends, is lost.

Main definitions:

* `IsWord` — nonempty texts without blanks;
* `Breaks` — texts before which a word ends: those that start with a blank, and the empty one.

Main results:

* `breakInduction` — the three cases of a text;
* `words_append_of_breaks` — a word in front of a break comes first;
* `words_unwords` — **words joined by single spaces are taken apart again**;
* `isBlank_or_mem_words` — a character is blank or in a word;
* `words_trimBlank`, `words_append_blanks` — blanks at the ends do not matter;
* `head?_dropBlank` — the first character after the blanks is the first one of the first word;
* `isBlank_of_isWordChar` — a letter, number or underscore is no blank.
-/

import Mathlib.Data.List.DropRight
import TeachingTree.Text.Blank
import TeachingTree.Text.Word

set_option relaxedAutoImplicit false
set_option autoImplicit false

namespace TeachingTree.Text

/-! ### Letters are no blanks -/

/-- Sets whose ranges do not meet have no character in common. -/
theorem CodePoints.has_eq_false {set other : CodePoints} {c : Char}
    (h : (set.all fun (first, last) => other.all fun (start, stop) =>
      last < start || stop < first) = true) (hc : set.has c = true) : other.has c = false := by
  obtain ⟨⟨first, last⟩, hrange, hin⟩ := List.any_eq_true.1 hc
  refine List.any_eq_false.2 fun ⟨start, stop⟩ hother => ?_
  have hapart := List.all_eq_true.1 (List.all_eq_true.1 h (first, last) hrange) (start, stop) hother
  simp only [Bool.or_eq_true, decide_eq_true_eq] at hapart
  simp only [Bool.and_eq_true, decide_eq_true_eq] at hin ⊢
  omega

/-- A character of a word is no blank. -/
theorem isBlank_of_isWordChar {c : Char} (h : isWordChar c = true) : isBlank c = false := by
  rw [isWordChar] at h
  split at h
  · rename_i hascii
    -- the first word character of ASCII is a zero, and the last blank is a space
    have hfirst : ∀ n < 48, isAsciiWordChar (Char.ofNat n) = false := by decide
    have hzero : 48 ≤ c.toNat := by
      refine Nat.le_of_not_lt fun hlt => ?_
      have hnone := hfirst c.toNat hlt
      rw [Char.ofNat_toNat, h] at hnone
      exact Bool.noConfusion hnone
    simp only [isBlank, blanks, CodePoints.has_cons, CodePoints.has_nil, Bool.or_eq_false_iff,
      Bool.and_eq_false_iff, decide_eq_false_iff_not]
    and_intros <;> first | trivial | omega
  · exact CodePoints.has_eq_false (by decide +kernel) h

theorem isWordChar_of_isBlank {c : Char} (h : isBlank c = true) : isWordChar c = false := by
  refine Bool.eq_false_iff.2 fun hword => ?_
  rw [isBlank_of_isWordChar hword] at h
  exact Bool.noConfusion h

/-! ### Words and breaks -/

/-- A text with characters, none of which is blank. -/
def IsWord (w : List Char) : Prop := w ≠ [] ∧ ∀ c ∈ w, isBlank c = false

/-- A text before which a word ends: it starts with a blank or is empty. -/
def Breaks (cs : List Char) : Prop := ∀ c ∈ cs.head?, isBlank c = true

variable {w cs blanks : List Char} {c : Char}

theorem breaks_nil : Breaks [] := by simp [Breaks]

theorem breaks_cons (h : isBlank c = true) (cs : List Char) : Breaks (c :: cs) := by
  simpa [Breaks] using h

/-- A text without blanks has none at its front. -/
theorem dropBlank_append_of_isWord (hw : IsWord w) (cs : List Char) :
    dropBlank (w ++ cs) = w ++ cs := by
  obtain ⟨hne, hw⟩ := hw
  cases w with
  | nil => exact absurd rfl hne
  | cons d w =>
      have hd : isBlank d = false := hw d (List.mem_cons_self ..)
      exact List.dropWhile_cons_of_neg (by simp [hd])

theorem Breaks.append (hcs : Breaks cs) (hblanks : ∀ b ∈ blanks, isBlank b = true) :
    Breaks (cs ++ blanks) := by
  cases cs with
  | nil =>
      intro b hb
      exact hblanks b (List.mem_of_mem_head? hb)
  | cons c cs => exact hcs

/-- A text that starts as a break does is one. -/
theorem Breaks.of_isPrefix {front : List Char} (hcs : Breaks cs) (hfront : front <+: cs) :
    Breaks front := by
  obtain ⟨rest, rfl⟩ := hfront
  cases front with
  | nil => exact breaks_nil
  | cons c front => exact hcs

/-- **The three cases of a text**: it is empty, or a blank in front of a text, or a word in front of
a break. -/
theorem breakInduction {motive : List Char → Prop} (nil : motive [])
    (blank : ∀ c cs, isBlank c = true → motive cs → motive (c :: cs))
    (word : ∀ w cs, IsWord w → Breaks cs → motive cs → motive (w ++ cs)) (cs : List Char) :
    motive cs := by
  induction h : cs.length using Nat.strong_induction_on generalizing cs with
  | _ n ih =>
      cases cs with
      | nil => exact nil
      | cons c rest =>
          rw [List.length_cons] at h
          cases hc : isBlank c with
          | true => exact blank c rest hc (ih rest.length (by omega) rest rfl)
          | false =>
              -- the word is the run of characters that are not blank
              let solid : Char → Bool := fun d => !isBlank d
              have hsplit : c :: rest = (c :: rest.takeWhile solid) ++ rest.dropWhile solid := by
                rw [List.cons_append, List.takeWhile_append_dropWhile]
              have hle : (rest.dropWhile solid).length ≤ rest.length :=
                (List.dropWhile_sublist _).length_le
              rw [hsplit]
              refine word _ _ ⟨List.cons_ne_nil _ _, ?_⟩ ?_ (ih _ (by omega) _ rfl)
              · intro d hd
                rcases List.mem_cons.1 hd with rfl | hd
                · exact hc
                · simpa [solid] using List.mem_takeWhile_imp hd
              · intro d hd
                have hstop := List.head?_dropWhile_not solid rest
                rw [Option.mem_def.1 hd] at hstop
                simpa [solid] using hstop

/-! ### The words of a text -/

theorem wordsFrom_append (hw : ∀ c ∈ w, isBlank c = false) (word rest : List Char) :
    wordsFrom word (w ++ rest) = wordsFrom (w.reverse ++ word) rest := by
  induction w generalizing word with
  | nil => rfl
  | cons c w ih =>
      rw [List.forall_mem_cons] at hw
      simp [wordsFrom, hw.1, ih hw.2]

theorem words_cons_blank (h : isBlank c = true) (cs : List Char) : words (c :: cs) = words cs := by
  simp [words, wordsFrom, h]

/-- **A word in front of a break comes first.** -/
theorem words_append_of_breaks (hw : IsWord w) (hcs : Breaks cs) :
    words (w ++ cs) = w :: words cs := by
  rw [words, wordsFrom_append hw.2, List.append_nil]
  have hne : w.reverse.isEmpty = false := by simpa using hw.1
  cases cs with
  | nil => simp [wordsFrom, hw.1]
  | cons c cs =>
      have hc : isBlank c = true := hcs c rfl
      simp [wordsFrom, hc, hw.1, words]

theorem words_of_isWord (hw : IsWord w) : words w = [w] := by
  have happend := words_append_of_breaks hw breaks_nil
  rwa [List.append_nil] at happend

theorem words_append_space (hw : IsWord w) (rest : List Char) :
    words (w ++ ' ' :: rest) = w :: words rest := by
  have hspace : isBlank ' ' = true := by decide
  rw [words_append_of_breaks hw (breaks_cons hspace rest), words_cons_blank hspace]

/-- What a text is taken apart into are words. -/
theorem isWord_of_mem_words {cs : List Char} : ∀ w ∈ words cs, IsWord w := by
  induction cs using breakInduction with
  | nil => simp
  | blank c cs hc ih => rwa [words_cons_blank hc]
  | word w cs hw hcs ih =>
      rw [words_append_of_breaks hw hcs]
      exact List.forall_mem_cons.2 ⟨hw, ih⟩

/-- A character of a text is blank or in a word. -/
theorem isBlank_or_mem_words {cs : List Char} :
    ∀ c ∈ cs, isBlank c = true ∨ ∃ w ∈ words cs, c ∈ w := by
  induction cs using breakInduction with
  | nil => simp
  | blank d cs hd ih =>
      intro c hc
      rw [words_cons_blank hd]
      rcases List.mem_cons.1 hc with rfl | hc
      · exact .inl hd
      · exact ih c hc
  | word w cs hw hcs ih =>
      intro c hc
      rw [words_append_of_breaks hw hcs]
      rcases List.mem_append.1 hc with hc | hc
      · exact .inr ⟨w, List.mem_cons_self .., hc⟩
      · rcases ih c hc with hblank | ⟨v, hv, hc⟩
        · exact .inl hblank
        · exact .inr ⟨v, List.mem_cons_of_mem _ hv, hc⟩

/-- **Words joined by single spaces are taken apart again.** -/
theorem words_unwords {ws : List (List Char)} (h : ∀ w ∈ ws, IsWord w) :
    words (unwords ws) = ws := by
  induction ws with
  | nil => rfl
  | cons w ws ih =>
      rw [List.forall_mem_cons] at h
      cases ws with
      | nil => exact words_of_isWord h.1
      | cons v ws => rw [unwords_cons_cons, words_append_space h.1, ih h.2]

/-! ### Blanks at the ends -/

theorem words_dropBlank (cs : List Char) : words (dropBlank cs) = words cs := by
  induction cs with
  | nil => rfl
  | cons c cs ih =>
      rw [dropBlank, List.dropWhile_cons]
      split
      · rename_i hc
        rw [words_cons_blank hc]
        exact ih
      · rfl

/-- Blanks behind a text do not matter for its words. -/
theorem words_append_blanks (hblanks : ∀ b ∈ blanks, isBlank b = true) (cs : List Char) :
    words (cs ++ blanks) = words cs := by
  induction cs using breakInduction with
  | nil =>
      have hnone : dropBlank blanks = [] := List.dropWhile_eq_nil_iff.2 hblanks
      rw [List.nil_append, ← words_dropBlank, hnone]
  | blank c cs hc ih => rw [List.cons_append, words_cons_blank hc, words_cons_blank hc, ih]
  | word w cs hw hcs ih =>
      rw [List.append_assoc, words_append_of_breaks hw (hcs.append hblanks),
        words_append_of_breaks hw hcs, ih]

/-- Blanks at the two ends do not matter for the words. -/
theorem words_trimBlank (cs : List Char) : words (trimBlank cs) = words cs := by
  have hsplit : trimBlank cs ++ (dropBlank cs).rtakeWhile isBlank = dropBlank cs :=
    List.rdropWhile_append_rtakeWhile ..
  rw [← words_dropBlank cs, ← hsplit, words_append_blanks]
  intro b hb
  exact List.mem_rtakeWhile_imp hb

/-- The first character after the blanks is the first one of the first word. -/
theorem head?_dropBlank (cs : List Char) :
    (dropBlank cs).head? = (words cs).head?.bind List.head? := by
  induction cs using breakInduction with
  | nil => rfl
  | blank c cs hc ih =>
      rw [words_cons_blank hc, ← ih, dropBlank, List.dropWhile_cons_of_pos hc, dropBlank]
  | word w cs hw hcs ih =>
      rw [dropBlank_append_of_isWord hw, words_append_of_breaks hw hcs, List.head?_cons,
        Option.bind_some]
      cases w with
      | nil => exact absurd rfl hw.1
      | cons c w => rfl

end TeachingTree.Text

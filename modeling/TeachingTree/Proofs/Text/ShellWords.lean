/-
**Quoted words.**

Any text can be given as a word: in single quotes every character stands for itself, except for the
single quote.  That one is put between double quotes, for which the single quotes are closed and
opened again; the three parts make one word, since nothing stands between them.  A text without
characters is a pair of quotes.

Words in this form are read back one by one.  Behind the quote that closes a word, the word is still
open, and white space or the end of the line completes it.

Main definitions:

* `ShellWords.quoted` — a word in single quotes;
* `ShellWords.IsGap` — the white space between two words;
* `ShellWords.QuotedLine` — the lines on which given words stand in quotes.

Main results:

* `ShellWords.wordsFrom_quoted`, `ShellWords.wordsFrom_gap` — a quoted word is read, and a gap
  completes it;
* `shellWords_of_quotedLine` — **quoted words are read back as they are**.
-/

import TeachingTree.Text.ShellWords

set_option relaxedAutoImplicit false
set_option autoImplicit false

namespace TeachingTree

namespace ShellWords

/-! ### Quoting -/

/-- The characters that stand for one character between single quotes: for a single quote, the
quotes are closed and opened again around one in double quotes. -/
def quotedChar (c : Char) : List Char :=
  if c = '\'' then ['\'', '"', '\'', '"', '\''] else [c]

/-- A word in single quotes. -/
def quoted (word : List Char) : List Char := '\'' :: (word.flatMap quotedChar ++ ['\''])

/-- White space that separates two words: spaces, tabs and ends of lines of either sort. -/
def IsGap (gap : List Char) : Prop := gap ≠ [] ∧ ∀ c ∈ gap, c ∈ [' ', '\t', '\n', '\r']

/-- The words stand on the line in quotes, with gaps between them. -/
inductive QuotedLine : List (List Char) → List Char → Prop where
  | nil : QuotedLine [] []
  | single (word : List Char) : QuotedLine [word] (quoted word)
  | cons (word : List Char) {next gap line : List Char} {words : List (List Char)}
      (hgap : IsGap gap) (hline : QuotedLine (next :: words) line) :
      QuotedLine (word :: next :: words) (quoted word ++ (gap ++ line))

/-! ### Reading -/

theorem isSeparator_of_mem {c : Char} (h : c ∈ [' ', '\t', '\n', '\r']) :
    isSeparator c = true := by
  simp only [List.mem_cons, List.not_mem_nil, or_false] at h
  rcases h with rfl | rfl | rfl | rfl <;> rfl

/-- Between single quotes, what stands for a character gives the character. -/
theorem wordsFrom_quotedChar (c : Char) (read rest : List Char) :
    wordsFrom (.quote .single read) (quotedChar c ++ rest) =
      wordsFrom (.quote .single (c :: read)) rest := by
  by_cases hc : c = '\''
  · subst hc
    rfl
  · simp [quotedChar, hc, wordsFrom, Pending.step, Quote.char]

theorem wordsFrom_quotedChars (word read rest : List Char) :
    wordsFrom (.quote .single read) (word.flatMap quotedChar ++ rest) =
      wordsFrom (.quote .single (word.reverse ++ read)) rest := by
  induction word generalizing read with
  | nil => rfl
  | cons c word ih =>
      rw [List.flatMap_cons, List.append_assoc, wordsFrom_quotedChar, ih, List.reverse_cons,
        List.append_assoc, List.singleton_append]

/-- Behind a quoted word, the word is open. -/
theorem wordsFrom_quoted (word rest : List Char) :
    wordsFrom .nothing (quoted word ++ rest) = wordsFrom (.word word.reverse) rest := by
  have hopen : wordsFrom .nothing (quoted word ++ rest) =
      wordsFrom (.quote .single []) (word.flatMap quotedChar ++ '\'' :: rest) := by
    rw [quoted, List.cons_append, List.append_assoc, List.singleton_append]
    rfl
  rw [hopen, wordsFrom_quotedChars, List.append_nil]
  rfl

theorem wordsFrom_blank {c : Char} (h : isSeparator c = true) (rest : List Char) :
    wordsFrom .nothing (c :: rest) = wordsFrom .nothing rest := by
  simp [wordsFrom, Pending.step, h]

theorem wordsFrom_blanks {blanks : List Char} (h : ∀ c ∈ blanks, c ∈ [' ', '\t', '\n', '\r'])
    (rest : List Char) : wordsFrom .nothing (blanks ++ rest) = wordsFrom .nothing rest := by
  induction blanks with
  | nil => rfl
  | cons c blanks ih =>
      rw [List.cons_append, wordsFrom_blank (isSeparator_of_mem (h c List.mem_cons_self))]
      exact ih fun d hd => h d (List.mem_cons_of_mem c hd)

/-- A gap completes an open word. -/
theorem wordsFrom_gap {gap : List Char} (h : IsGap gap) (read rest : List Char) :
    wordsFrom (.word read) (gap ++ rest) =
      (wordsFrom .nothing rest).map (read.reverse :: ·) := by
  obtain ⟨hne, hblank⟩ := h
  cases gap with
  | nil => exact absurd rfl hne
  | cons c gap =>
      have hc : isSeparator c = true := isSeparator_of_mem (hblank c List.mem_cons_self)
      have hrest : wordsFrom .nothing (gap ++ rest) = wordsFrom .nothing rest :=
        wordsFrom_blanks (fun d hd => hblank d (List.mem_cons_of_mem c hd)) rest
      rw [← hrest]
      simp [wordsFrom, Pending.step, hc]

/-- Quoted words are the words of their line. -/
theorem wordsFrom_of_quotedLine {words : List (List Char)} {line : List Char}
    (h : QuotedLine words line) : wordsFrom .nothing line = .ok words := by
  induction h with
  | nil => rfl
  | single word =>
      rw [← List.append_nil (quoted word), wordsFrom_quoted, wordsFrom_nil, Pending.finish,
        List.reverse_reverse]
  | cons word hgap _ ih =>
      rw [wordsFrom_quoted, wordsFrom_gap hgap, ih, List.reverse_reverse]
      rfl

end ShellWords

/-- **Quoted words are read back as they are**, whatever characters they have and however many there
are. -/
theorem shellWords_of_quotedLine {texts : List String} {line : String}
    (h : ShellWords.QuotedLine (texts.map String.toList) line.toList) :
    shellWords line = .ok texts := by
  have htexts : (texts.map String.toList).map String.ofList = texts := by
    simp [Function.comp_def]
  rw [shellWords, ShellWords.wordsFrom_of_quotedLine h]
  exact congrArg Except.ok htexts

end TeachingTree

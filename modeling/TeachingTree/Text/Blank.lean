/-
Blank characters, and the operations on text that they bound.

Main definitions:

* `isBlank` — the white space of Unicode together with the four separators U+001C to U+001F;
* `trimBlank` — a text without the blanks at its two ends;
* `words`, `unwords` — the maximal runs of characters that are not blank, and their joining by
  single spaces.
-/

import TeachingTree.Text.CodePoints

set_option relaxedAutoImplicit false
set_option autoImplicit false

namespace TeachingTree.Text

/-- The blank code points. -/
def blanks : CodePoints :=
  [(0x9, 0xd), (0x1c, 0x20), (0x85, 0x85), (0xa0, 0xa0),
    (0x1680, 0x1680), (0x2000, 0x200a), (0x2028, 0x2029), (0x202f, 0x202f), (0x205f, 0x205f),
    (0x3000, 0x3000)]

/-- A blank is a character of Unicode white space or one of the separators U+001C to U+001F. -/
def isBlank (c : Char) : Bool := blanks.has c

/-- The text without the blanks it starts with. -/
def dropBlank (cs : List Char) : List Char := cs.dropWhile isBlank

/-- The text without the blanks at its two ends. -/
def trimBlank (cs : List Char) : List Char := (dropBlank (dropBlank cs).reverse).reverse

/-! ### Words -/

/-- Splits at blanks: `word` is the run read so far, in reverse. -/
def wordsFrom (word : List Char) : List Char → List (List Char)
  | [] => if word.isEmpty then [] else [word.reverse]
  | c :: rest =>
    if isBlank c then
      if word.isEmpty then wordsFrom [] rest else word.reverse :: wordsFrom [] rest
    else wordsFrom (c :: word) rest

/-- The maximal runs of characters that are not blank, in order. -/
def words (cs : List Char) : List (List Char) := wordsFrom [] cs

/-- The words joined by single spaces. -/
def unwords : List (List Char) → List Char
  | [] => []
  | [w] => w
  | w :: ws => w ++ ' ' :: unwords ws

@[simp] theorem words_nil : words [] = [] := rfl

@[simp] theorem unwords_nil : unwords [] = [] := rfl

@[simp] theorem unwords_singleton (w : List Char) : unwords [w] = w := rfl

@[simp] theorem unwords_cons_cons (w v : List Char) (ws : List (List Char)) :
    unwords (w :: v :: ws) = w ++ ' ' :: unwords (v :: ws) := rfl

end TeachingTree.Text

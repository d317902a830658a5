/-
The lexemes of expressions.

Between lexemes there may be blanks and continued lines.  Outside brackets a line feed ends the
expression, and after it there may only be lines without lexemes; inside brackets line feeds count
as blanks.  A comment ends with its line.

Main definitions:

* `Lexeme` — the lexemes;
* `onlyComments` — whether a text has no lexemes;
* `takeLexeme?`, `takeElement?` — one lexeme, or what may stand between two;
* `lexemes?` — the lexemes of a whole text.
-/

import TeachingTree.Literal.Numeral
import TeachingTree.Literal.Quotation

set_option relaxedAutoImplicit false
set_option autoImplicit false

namespace TeachingTree.Literal

open Text

/-- A lexeme of an expression. -/
inductive Lexeme where
  /-- A literal of text. -/
  | text (points : List CodePoint)
  /-- A literal of bytes. -/
  | bytes (value : List UInt8)
  /-- A literal of text with fields, of which the expressions are known. -/
  | template (fields : List (List Char))
  /-- A number. -/
  | number (value : Constant)
  /-- A word. -/
  | word (text : String)
  /-- A bracket, an operator or a separator. -/
  | mark (text : String)

/-! ### Gaps -/

/-- The blanks that may stand between lexemes. -/
def isGapBlank (c : Char) : Bool := c == ' ' || c == '\t' || c == '\x0c'

/-- The rest after a line feed, unless the text ends with it. -/
def nextLine? : List Char → Option (List Char)
  | '\n' :: c :: rest => some (c :: rest)
  | _ => none

/-- Whether a text holds nothing but blanks, comments, line feeds and continued lines.
`inComment` says that the text starts inside a comment. -/
def onlyComments (inComment : Bool) : List Char → Bool
  | [] => true
  | c :: rest =>
    if c == '\n' then onlyComments false rest
    else if inComment then onlyComments true rest
    else if c == '#' then onlyComments true rest
    else if c == '\\' then (nextLine? rest).isSome && onlyComments false rest
    else isGapBlank c && onlyComments false rest

/-! ### Lexemes -/

/-- The marks; of two that start alike the longer one comes first. -/
def marks : List String :=
  ["...", "**", "//", "<<", ">>", "<=", ">=", "==", "!=", ":=", "(", ")", "[", "]", "\x7b", "\x7d",
    ",", ":", ".", "=", "+", "-", "*", "/", "%", "@", "&", "|", "^", "~", "<", ">"]

/-- Takes a mark off the front. -/
def takeMark? (cs : List Char) : Option (String × List Char) :=
  marks.findSome? fun mark => (after? mark cs).map fun rest => (mark, rest)

/-- The largest number of brackets that may be open at once. -/
def maxDepth : Nat := 200

/-- The number of brackets that are open after a lexeme, if it may stand where so many are. -/
def depthAfter? (depth : Nat) : Lexeme → Option Nat
  | .mark text =>
    if ["(", "[", "\x7b"].contains text then
      if depth < maxDepth then some (depth + 1) else none
    else if [")", "]", "\x7d"].contains text then if depth = 0 then none else some (depth - 1)
    else some depth
  | _ => some depth

/-- The lexeme of a literal. -/
def Lexeme.ofQuotation : Quotation → Lexeme
  | .text points => .text points
  | .bytes value => .bytes value
  | .template fields => .template fields

/-- Takes a lexeme off the front. -/
def takeLexeme? (names : CharacterNames) (cs : List Char) : Option (Lexeme × List Char) :=
  match takeLiteral? names cs with
  | some (value, rest) => some (.ofQuotation value, rest)
  | none => match takeNumeral? cs with
    | some (value, rest) => some (.number value, rest)
    | none => match takeWord? cs with
      | some (text, rest) => some (.word text, rest)
      | none => (takeMark? cs).map fun (text, rest) => (.mark text, rest)

/-- Takes a lexeme off the front, or one element of a gap, where so many brackets are open. -/
def takeElement? (names : CharacterNames) (depth : Nat) :
    List Char → Option (Option Lexeme × List Char)
  | [] => none
  | c :: rest =>
    if isGapBlank c then some (none, rest)
    else if c == '#' then some (none, rest.dropWhile (· != '\n'))
    else if c == '\n' then
      if depth ≠ 0 then some (none, rest) else if onlyComments false rest then some (none, [])
      else none
    else if c == '\\' then (nextLine? rest).map fun rest => (none, rest)
    else (takeLexeme? names (c :: rest)).map fun (lexeme, rest) => (some lexeme, rest)

/-! ### Lengths -/

theorem length_nextLine?_lt {cs rest : List Char} (h : nextLine? cs = some rest) :
    rest.length < cs.length := by
  unfold nextLine? at h
  split at h
  · simp only [Option.some.injEq] at h
    subst h
    simp
  · simp at h

theorem length_takeMark?_lt {cs rest : List Char} {text : String}
    (h : takeMark? cs = some (text, rest)) : rest.length < cs.length := by
  simp only [takeMark?, List.findSome?_eq_some_iff, Option.map_eq_some_iff, Prod.mk.injEq] at h
  obtain ⟨before, mark, after, hm, ⟨rest', hr, rfl, rfl⟩, -⟩ := h
  have hmem : mark ∈ marks := by simp [hm]
  have hpos : ∀ mark ∈ marks, 0 < mark.toList.length := by decide
  have := hpos mark hmem
  rw [dropStart?_eq_some_iff.mp hr, List.length_append]
  omega

theorem length_takeLexeme?_lt {names : CharacterNames} {cs rest : List Char} {lexeme : Lexeme}
    (h : takeLexeme? names cs = some (lexeme, rest)) : rest.length < cs.length := by
  unfold takeLexeme? at h
  split at h
  · rename_i ht
    simp only [Option.some.injEq, Prod.mk.injEq] at h
    obtain ⟨-, rfl⟩ := h
    exact length_takeLiteral?_lt ht
  · split at h
    · rename_i hn
      simp only [Option.some.injEq, Prod.mk.injEq] at h
      obtain ⟨-, rfl⟩ := h
      exact length_takeNumeral?_lt hn
    · split at h
      · rename_i hw
        simp only [Option.some.injEq, Prod.mk.injEq] at h
        obtain ⟨-, rfl⟩ := h
        exact length_takeWord?_lt hw
      · simp only [Option.map_eq_some_iff, Prod.mk.injEq, Prod.exists] at h
        obtain ⟨text, tail, hm, -, rfl⟩ := h
        exact length_takeMark?_lt hm

/-- Every step takes at least one character. -/
theorem length_takeElement?_lt {names : CharacterNames} {depth : Nat} {cs rest : List Char}
    {lexeme : Option Lexeme} (h : takeElement? names depth cs = some (lexeme, rest)) :
    rest.length < cs.length := by
  cases cs with
  | nil => simp [takeElement?] at h
  | cons c tail =>
      have hd := (List.dropWhile_suffix (l := tail) (· != '\n')).length_le
      simp only [takeElement?] at h
      repeat' split at h
      all_goals simp only [Option.some.injEq, Prod.mk.injEq, Option.map_eq_some_iff, Prod.exists,
        reduceCtorEq, List.length_cons] at h ⊢
      · obtain ⟨-, rfl⟩ := h
        omega
      · obtain ⟨-, rfl⟩ := h
        omega
      · obtain ⟨-, rfl⟩ := h
        omega
      · obtain ⟨-, rfl⟩ := h
        simp
      · obtain ⟨after, ha, -, rfl⟩ := h
        have := length_nextLine?_lt ha
        omega
      · obtain ⟨a, b, hb, -, rfl⟩ := h
        simpa using length_takeLexeme?_lt hb

/-! ### Whole texts -/

/-- The lexemes of a text that starts where so many brackets are open. -/
def lexemesFrom? (names : CharacterNames) (depth : Nat) (cs : List Char) : Option (List Lexeme) :=
  if cs = [] then (if depth = 0 then some [] else none)
  else match _h : takeElement? names depth cs with
    | none => none
    | some (none, rest) => lexemesFrom? names depth rest
    | some (some lexeme, rest) => do
      let depth ← depthAfter? depth lexeme
      let more ← lexemesFrom? names depth rest
      return lexeme :: more
termination_by cs.length
decreasing_by all_goals exact length_takeElement?_lt _h

/-- The lexemes of a text. -/
def lexemes? (names : CharacterNames) (cs : List Char) : Option (List Lexeme) :=
  lexemesFrom? names 0 cs

end TeachingTree.Literal

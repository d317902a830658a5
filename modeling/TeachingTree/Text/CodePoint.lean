/-
Code points, halves of surrogate pairs among them.

Escapes name code points by number, and a character beyond U+FFFF may be named by two numbers that
are no characters themselves.  The halves are kept until the whole text is known, since they may
come from different places.

Main definitions:

* `CodePoint` — a character, or half of a pair;
* `CodePoint.ofNat?` — the code point of a number;
* `CodePoint.join` — the characters of a list of code points;
* `CodePoint.ofString`, `CodePoint.string?` — strings as code points, and back.
-/

set_option relaxedAutoImplicit false
set_option autoImplicit false

namespace TeachingTree.Text

/-- A code point. -/
inductive CodePoint where
  /-- A character. -/
  | char (c : Char)
  /-- The first half of a pair, from U+D800 on. -/
  | leading (offset : Fin 1024)
  /-- The second half of a pair, from U+DC00 on. -/
  | trailing (offset : Fin 1024)
  deriving DecidableEq, Repr

namespace CodePoint

/-- The code point of a number, if there is one. -/
def ofNat? (n : Nat) : Option CodePoint :=
  if n.isValidChar then some (.char (Char.ofNat n))
  else if h : 0xd800 ≤ n ∧ n < 0xdc00 then some (.leading ⟨n - 0xd800, by omega⟩)
  else if h : 0xdc00 ≤ n ∧ n < 0xe000 then some (.trailing ⟨n - 0xdc00, by omega⟩)
  else none

/-- The number of a code point. -/
def toNat : CodePoint → Nat
  | .char c => c.toNat
  | .leading offset => 0xd800 + offset.val
  | .trailing offset => 0xdc00 + offset.val

/-- The code points of a string. -/
def ofString (s : String) : List CodePoint := s.toList.map .char

/-- The character that a code point is. -/
def char? : CodePoint → Option Char
  | .char c => some c
  | _ => none

/-- The string of code points that are characters. -/
def string? (points : List CodePoint) : Option String := (points.mapM char?).map String.ofList

/-- The character of a pair. -/
def ofPair (leading trailing : Fin 1024) : Char :=
  Char.ofNat (0x10000 + 1024 * leading.val + trailing.val)

/-- The characters of code points: two halves next to each other are one character, and a half
alone is replaced. -/
def join : List CodePoint → List Char
  | [] => []
  | .leading a :: .trailing b :: rest => ofPair a b :: join rest
  | .char c :: rest => c :: join rest
  | _ :: rest => '\ufffd' :: join rest

@[simp] theorem join_nil : join [] = [] := rfl

@[simp] theorem join_char_cons (c : Char) (cs : List CodePoint) :
    join (.char c :: cs) = c :: join cs := by simp [join]

/-- Characters are joined to themselves. -/
@[simp] theorem join_map_char (cs : List Char) : join (cs.map .char) = cs := by
  induction cs with
  | nil => rfl
  | cons c cs ih => simp [ih]

theorem mapM_char?_map_char (cs : List Char) : (cs.map CodePoint.char).mapM char? = some cs := by
  induction cs with
  | nil => rfl
  | cons c cs ih => simp [char?, ih]

@[simp] theorem string?_ofString (s : String) : string? (ofString s) = some s := by
  rw [string?, ofString, mapM_char?_map_char, Option.map_some, String.ofList_toList]

end CodePoint

end TeachingTree.Text

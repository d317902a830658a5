/-
Numbers and words in expressions.

A number is an integer in decimal digits or after the marker of another base, or a floating-point
number in decimal notation, which with a `j` after it is imaginary.  Digits may be separated by
single underscores.  No letter follows a number, but for those of some words.

Main definitions:

* `isNameChar` — the characters that continue a word, and may not continue a number;
* `takeNumeral?` — a number;
* `takeWord?` — a word.
-/

import TeachingTree.Constant
import TeachingTree.Number.Reading
import TeachingTree.Text.Identifier
import TeachingTree.Text.Search

set_option relaxedAutoImplicit false
set_option autoImplicit false

namespace TeachingTree.Literal

open Text

/-- Whether a character may continue a number or a word: a letter, a digit, an underscore, or
anything beyond ASCII. -/
def isNameChar (c : Char) : Bool := (alphanumericValue? c).isSome || c == '_' || 0x80 ≤ c.toNat

/-! ### Numbers -/

/-- The base that a letter after a zero marks. -/
def markedBase? (c : Char) : Option Nat := [('x', 16), ('o', 8), ('b', 2)].lookup c.toLower

/-- The integer of decimal digits: unless all of them are zeros, a zero in front is refused, and so
are too many digits. -/
def decimalInteger? (digits : List Nat) : Option Constant :=
  let n := ofDigits 10 digits
  if n ≠ 0 ∧ (digits.head? = some 0 ∨ maxDigits < digits.length) then none
  else some (.integer n)

/-- Takes an exponent off the front; zero if there is none. -/
def takeScale (cs : List Char) : Option Int × List Char :=
  match cs with
  | [] => (none, cs)
  | c :: rest =>
    if c == 'e' || c == 'E' then
      match takeExponent? rest with
      | some (exponent, rest) => (some exponent, rest)
      | none => (none, cs)
    else (none, cs)

/-- Drops the letter that makes a number imaginary, if it is there. -/
def dropImaginary? : List Char → Option (List Char)
  | [] => none
  | c :: rest => if c == 'j' || c == 'J' then some rest else none

/-- Takes a number in decimal notation off the front. -/
def takeDecimal? (cs : List Char) : Option (Constant × List Char) :=
  let (whole, rest) := takeDigits 10 cs
  let hasPoint := rest.head? = some '.'
  let (fraction, rest) := takeFraction 10 rest
  let (scale, rest) := takeScale rest
  let x := Binary64.ofDecimal false (ofDigits 10 (whole ++ fraction))
    (scale.getD 0 - fraction.length)
  if whole.isEmpty && fraction.isEmpty then none
  else match dropImaginary? rest with
    | some rest => some (.complex (.finite false .zero) x, rest)
    | none =>
      if !hasPoint && scale.isNone then (decimalInteger? whole).map fun n => (n, rest)
      else some (.floating x, rest)

/-- Takes an integer in the given base off the front, after the marker of the base. -/
def takeMarked? (base : Nat) (cs : List Char) : Option (Constant × List Char) :=
  match takeDigits base (if cs.head? = some '_' then cs.drop 1 else cs) with
  | ([], _) => none
  | (digits, rest) => some (.integer (ofDigits base digits), rest)

/-- Takes a number of any form off the front. -/
def takeAnyNumeral? (cs : List Char) : Option (Constant × List Char) :=
  match cs with
  | '0' :: c :: rest =>
    match markedBase? c with
    | some base => takeMarked? base rest
    | none => takeDecimal? cs
  | _ => takeDecimal? cs

/-- The words that may follow a number without a blank. -/
def wordsAfterNumbers : List (List Char) :=
  ["and".toList, "else".toList, "for".toList, "if".toList, "in".toList, "is".toList, "not".toList,
    "or".toList]

/-- Whether a text may follow a number. -/
def mayFollowNumber (cs : List Char) : Bool :=
  !cs.head?.any isNameChar || wordsAfterNumbers.any fun word => (dropStart? word cs).isSome

/-- Takes a number off the front. -/
def takeNumeral? (cs : List Char) : Option (Constant × List Char) :=
  (takeAnyNumeral? cs).filter fun (_, rest) => mayFollowNumber rest

/-! ### Lengths -/

theorem length_moreDigits_le (base : Nat) (cs : List Char) :
    (moreDigits base cs).2.length ≤ cs.length := by
  fun_induction moreDigits base cs <;> grind

theorem length_takeDigits_le (base : Nat) (cs : List Char) :
    (takeDigits base cs).2.length ≤ cs.length := by
  cases cs with
  | nil => simp [takeDigits]
  | cons c rest =>
      have := length_moreDigits_le base rest
      simp only [takeDigits]
      split
      · simp only [List.length_cons]
        omega
      · exact Nat.le_refl _

/-- A run of digits takes at least one character. -/
theorem length_takeDigits_lt {base : Nat} {cs : List Char} (h : (takeDigits base cs).1 ≠ []) :
    (takeDigits base cs).2.length < cs.length := by
  cases cs with
  | nil => simp [takeDigits] at h
  | cons c rest =>
      have := length_moreDigits_le base rest
      simp only [takeDigits] at h ⊢
      split
      · rename_i digit hd
        simp only [List.length_cons]
        omega
      · rename_i hd
        simp [hd] at h

theorem length_takeFraction_le (base : Nat) (cs : List Char) :
    (takeFraction base cs).2.length ≤ cs.length := by
  unfold takeFraction
  split
  · rename_i rest
    have := length_takeDigits_le base rest
    simp only [List.length_cons]
    omega
  · simp

theorem length_takeFraction_lt {base : Nat} {cs : List Char} (h : (takeFraction base cs).1 ≠ []) :
    (takeFraction base cs).2.length < cs.length := by
  unfold takeFraction at *
  split at h
  · rename_i rest
    have := length_takeDigits_le base rest
    simp only [List.length_cons]
    omega
  · simp at h

theorem length_takeSign_le (cs : List Char) : (takeSign cs).2.length ≤ cs.length := by
  unfold takeSign
  split <;> simp

theorem length_takeExponent?_le {cs rest : List Char} {n : Int}
    (h : takeExponent? cs = some (n, rest)) : rest.length ≤ cs.length := by
  have hs := length_takeSign_le cs
  have hd := length_takeDigits_le 10 (takeSign cs).2
  simp only [takeExponent?] at h
  split at h
  · simp at h
  · rename_i digits tail ht
    simp only [Option.some.injEq, Prod.mk.injEq] at h
    obtain ⟨-, rfl⟩ := h
    rw [ht] at hd
    exact Nat.le_trans hd hs

theorem length_takeScale_le (cs : List Char) : (takeScale cs).2.length ≤ cs.length := by
  unfold takeScale
  split
  · simp
  · rename_i c rest
    split
    · split
      · rename_i exponent tail he
        have := length_takeExponent?_le he
        simp only [List.length_cons]
        omega
      · simp
    · simp

theorem length_dropImaginary?_le {cs rest : List Char} (h : dropImaginary? cs = some rest) :
    rest.length ≤ cs.length := by
  unfold dropImaginary? at h
  split at h
  · simp at h
  · split at h
    · simp only [Option.some.injEq] at h
      subst h
      simp
    · simp at h

theorem length_takeDecimal?_lt {cs rest : List Char} {value : Constant}
    (h : takeDecimal? cs = some (value, rest)) : rest.length < cs.length := by
  have hw := length_takeDigits_le 10 cs
  have hf := length_takeFraction_le 10 (takeDigits 10 cs).2
  have hs := length_takeScale_le (takeFraction 10 (takeDigits 10 cs).2).2
  have hlt : ((takeDigits 10 cs).1.isEmpty && (takeFraction 10 (takeDigits 10 cs).2).1.isEmpty)
      = false → (takeFraction 10 (takeDigits 10 cs).2).2.length < cs.length := by
    intro he
    by_cases hd : (takeDigits 10 cs).1 = []
    · have hn : (takeFraction 10 (takeDigits 10 cs).2).1 ≠ [] := by
        intro hn
        simp [hd, hn] at he
      exact Nat.lt_of_lt_of_le (length_takeFraction_lt hn) hw
    · exact Nat.lt_of_le_of_lt hf (length_takeDigits_lt hd)
  simp only [takeDecimal?] at h
  split at h
  · simp at h
  · rename_i he
    have := hlt (by simpa using he)
    split at h
    · rename_i after hi
      have := length_dropImaginary?_le hi
      simp only [Option.some.injEq, Prod.mk.injEq] at h
      obtain ⟨-, rfl⟩ := h
      omega
    · split at h
      · simp only [Option.map_eq_some_iff, Prod.mk.injEq] at h
        obtain ⟨-, -, -, rfl⟩ := h
        omega
      · simp only [Option.some.injEq, Prod.mk.injEq] at h
        obtain ⟨-, rfl⟩ := h
        omega

theorem length_takeMarked?_le {base : Nat} {cs rest : List Char} {value : Constant}
    (h : takeMarked? base cs = some (value, rest)) : rest.length ≤ cs.length := by
  have hd := length_takeDigits_le base (if cs.head? = some '_' then cs.drop 1 else cs)
  have hc : (if cs.head? = some '_' then cs.drop 1 else cs).length ≤ cs.length := by
    split <;> simp
  simp only [takeMarked?] at h
  split at h
  · simp at h
  · rename_i digits tail ht
    simp only [Option.some.injEq, Prod.mk.injEq] at h
    obtain ⟨-, rfl⟩ := h
    rw [ht] at hd
    exact Nat.le_trans hd hc

/-- A number takes at least one character. -/
theorem length_takeNumeral?_lt {cs rest : List Char} {value : Constant}
    (h : takeNumeral? cs = some (value, rest)) : rest.length < cs.length := by
  have ha : takeAnyNumeral? cs = some (value, rest) := by
    simp only [takeNumeral?, Option.filter_eq_some_iff] at h
    exact h.1
  unfold takeAnyNumeral? at ha
  split at ha
  · split at ha
    · have := length_takeMarked?_le ha
      simp only [List.length_cons]
      omega
    · exact length_takeDecimal?_lt ha
  · exact length_takeDecimal?_lt ha

/-! ### Words -/

/-- Takes a word off the front. -/
def takeWord? : List Char → Option (String × List Char)
  | [] => none
  | c :: rest =>
    let more := rest.takeWhile isNameChar
    if isIdentifierStart c && more.all isIdentifierPart then
      some (String.ofList (c :: more), rest.drop more.length)
    else none

/-- A word takes at least one character. -/
theorem length_takeWord?_lt {cs rest : List Char} {word : String}
    (h : takeWord? cs = some (word, rest)) : rest.length < cs.length := by
  unfold takeWord? at h
  split at h
  · simp at h
  · simp only [Option.ite_none_right_eq_some, Option.some.injEq, Prod.mk.injEq] at h
    obtain ⟨-, -, rfl⟩ := h
    simp only [List.length_drop, List.length_cons]
    omega

end TeachingTree.Literal

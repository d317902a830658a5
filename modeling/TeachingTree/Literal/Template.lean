/-
Templates: literals of text with fields in braces.

A field holds an expression, and after it possibly the mark `=`, a conversion, and a format, in
which there may be fields again.  Braces that stand for themselves are doubled, but in formats they
are always fields.  The braces around the name of a character do not count, unless backslashes stand
for themselves.

Main definitions:

* `afterBackslash` — what follows a backslash and hides braces;
* `afterExpression?` — what follows the expression of a field;
* `closeField?` — what follows a field, or the start of its format;
* `fields?` — the expressions of all fields.
-/

import TeachingTree.Literal.Delimited
import TeachingTree.Number.Reading

set_option relaxedAutoImplicit false
set_option autoImplicit false

namespace TeachingTree.Literal

/-! ### Fields -/

/-- The brackets in expressions. -/
def bracketPairs : List (Char × Char) := [('(', ')'), ('[', ']'), ('{', '}')]

/-- What an expression does at a character, where the brackets that close the open ones are known:
the brackets that close the open ones after it, or nothing where the expression ends. -/
def stepBrackets? (closers : List Char) (c : Char) : Option (List Char) :=
  match bracketPairs.lookup c with
  | some closer => some (closer :: closers)
  | none =>
    if closers.head? = some c then some closers.tail
    else if [')', ']', '}'].contains c then none
    else some closers

/-- Takes an expression off the front of the rest of a field: what follows it starts with the
character that ends it. -/
def afterExpression? (closers : List Char) (cs : List Char) : Option (List Char) :=
  match cs with
  | [] => none
  | c :: rest =>
    if isQuote c then
      match _h : takeQuoted? c rest with
      | some (_, rest) => afterExpression? closers rest
      | none => none
    else if c == '#' then none
    else if closers.isEmpty && "!=<>".toList.contains c && rest.head? = some '=' then
      afterExpression? closers (rest.drop 1)
    else if closers.isEmpty && "!:=\x7d".toList.contains c then some (c :: rest)
    else match stepBrackets? closers c with
      | some closers => afterExpression? closers rest
      | none => none
termination_by cs.length
decreasing_by
  · have := length_takeQuoted?_lt _h
    simp only [List.length_cons]
    omega
  · simp only [List.length_cons, List.length_drop]
    omega
  · simp

/-- Drops the mark `=` and the blanks after it. -/
def dropEqualsSign : List Char → List Char
  | '=' :: rest => dropAsciiBlank rest
  | cs => cs

/-- Drops a conversion. -/
def dropConversion? : List Char → Option (List Char)
  | '!' :: c :: rest => if "sra".toList.contains c then some rest else none
  | cs => some cs

/-- What follows the expression of a field: the number of formats around the rest, and the rest. -/
def closeField? (level : Nat) (cs : List Char) : Option (Nat × List Char) :=
  match dropConversion? (dropEqualsSign cs) with
  | some (':' :: rest) => some (level + 1, rest)
  | some ('}' :: rest) => some (level, rest)
  | _ => none

/-! ### Lengths -/

theorem length_afterExpression?_le {closers cs rest : List Char}
    (h : afterExpression? closers cs = some rest) : rest.length ≤ cs.length := by
  fun_induction afterExpression? closers cs with
  | case1 => simp at h
  | case2 closers c tail _ body after hq ih =>
      have := ih h
      have := length_takeQuoted?_lt hq
      simp only [List.length_cons]
      omega
  | case3 => simp at h
  | case4 => simp at h
  | case5 closers c tail _ _ _ ih =>
      have := ih h
      simp only [List.length_drop, List.length_cons] at *
      omega
  | case6 =>
      simp only [Option.some.injEq] at h
      subst h
      simp
  | case7 closers c tail _ _ _ _ closers' _ ih =>
      have := ih h
      simp only [List.length_cons]
      omega
  | case8 => simp at h

theorem length_dropEqualsSign_le (cs : List Char) : (dropEqualsSign cs).length ≤ cs.length := by
  unfold dropEqualsSign
  split
  · exact Nat.le_succ_of_le (List.dropWhile_sublist _).length_le
  · exact Nat.le_refl _

theorem length_dropConversion?_le {cs rest : List Char} (h : dropConversion? cs = some rest) :
    rest.length ≤ cs.length := by
  unfold dropConversion? at h
  split at h
  · split at h
    · simp only [Option.some.injEq] at h
      subst h
      simp only [List.length_cons]
      omega
    · simp at h
  · simp only [Option.some.injEq] at h
    subst h
    exact Nat.le_refl _

theorem length_closeField?_lt {level level' : Nat} {cs rest : List Char}
    (h : closeField? level cs = some (level', rest)) : rest.length < cs.length := by
  have he := length_dropEqualsSign_le cs
  unfold closeField? at h
  split at h
  · rename_i hc
    have := length_dropConversion?_le hc
    simp only [Option.some.injEq, Prod.mk.injEq] at h
    obtain ⟨-, rfl⟩ := h
    simp only [List.length_cons] at this
    omega
  · rename_i hc
    have := length_dropConversion?_le hc
    simp only [Option.some.injEq, Prod.mk.injEq] at h
    obtain ⟨-, rfl⟩ := h
    simp only [List.length_cons] at this
    omega
  · simp at h

/-! ### Templates -/

/-- The largest number of formats around a field. -/
def maxFormats : Nat := 1

/-- What follows a backslash and, if it is there, a second backslash or the name of a character. -/
def afterBackslash : List Char → List Char
  | '\\' :: rest => rest
  | 'N' :: '{' :: rest => (rest.dropWhile (· != '}')).drop 1
  | rest => rest

theorem length_afterBackslash_le (cs : List Char) : (afterBackslash cs).length ≤ cs.length := by
  fun_cases afterBackslash cs with
  | case1 rest => simp
  | case2 rest =>
      have := (List.dropWhile_suffix (l := rest) (· != '}')).length_le
      simp only [List.length_drop, List.length_cons]
      omega
  | case3 => exact Nat.le_refl _

/-- The texts of the expressions of all fields of a template, of which so many formats are open. -/
def fields? (isRaw : Bool) (level : Nat) (cs : List Char) : Option (List (List Char)) :=
  match cs with
  | [] => if level = 0 then some [] else none
  | c :: rest =>
    if c == '\\' && !isRaw then fields? isRaw level (afterBackslash rest)
    else if level = 0 && (c == '{' || c == '}') && rest.head? = some c then
      fields? isRaw level (rest.drop 1)
    else if c == '{' then
      if maxFormats < level then none
      else match _h : afterExpression? [] rest with
        | none => none
        | some after =>
          match _h' : closeField? level after with
          | none => none
          | some (level, next) =>
            (fields? isRaw level next).map (rest.take (rest.length - after.length) :: ·)
    else if c == '}' then if level = 0 then none else fields? isRaw (level - 1) rest
    else fields? isRaw level rest
termination_by cs.length
decreasing_by
  · have := length_afterBackslash_le rest
    simp only [List.length_cons]
    omega
  · simp only [List.length_cons, List.length_drop]
    omega
  · have := length_afterExpression?_le _h
    have := length_closeField?_lt _h'
    simp only [List.length_cons]
    omega
  · simp
  · simp

end TeachingTree.Literal

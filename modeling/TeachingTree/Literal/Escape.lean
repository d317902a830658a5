/-
Escapes in literals.

A backslash and what follows it stand for other characters: one character for the common controls,
an octal number of up to three digits, a hexadecimal number of fixed length, or the name of a
character in braces.  A hexadecimal number may also be half of a surrogate pair.  In literals of
bytes only the controls, octal numbers up to 255 and hexadecimal numbers of two digits are known.

Main definitions:

* `takeNamed?` — a character by its name;
* `takeEscape?` — what follows a backslash;
* `unescape?` — the code points of a whole body.
-/

import TeachingTree.Text.CharacterName
import TeachingTree.Text.CodePoint
import TeachingTree.Text.Digit

set_option relaxedAutoImplicit false
set_option autoImplicit false

namespace TeachingTree.Literal

open Text

/-- The escapes of one character, and what they stand for; a line feed after a backslash stands for
nothing. -/
def simpleEscapes : List (Char × List Char) :=
  [('\n', []), ('\\', ['\\']), ('\'', ['\'']), ('"', ['"']), ('a', ['\x07']), ('b', ['\x08']),
    ('f', ['\x0c']), ('n', ['\n']), ('r', ['\r']), ('t', ['\t']), ('v', ['\x0b'])]

/-- Whether a character is an octal digit. -/
def isOctal (c : Char) : Bool := (digitInBase? 8 c).isSome

/-- The number that the digits of a text denote in a base. -/
def digitsValue (base : Nat) (cs : List Char) : Nat :=
  ofDigits base (cs.filterMap (digitInBase? base))

/-- Takes a code point written as that many hexadecimal digits off the front.  Numbers that are no
code point are refused. -/
def takeCodePoint? (width : Nat) (cs : List Char) : Option (List CodePoint × List Char) :=
  let digits := cs.take width
  if digits.length = width ∧ digits.all (fun c => (digitInBase? 16 c).isSome) then
    (CodePoint.ofNat? (digitsValue 16 digits)).map fun point => ([point], cs.drop width)
  else none

/-- Takes the name of a character in braces off the front.  A name that no character has is
refused. -/
def takeNamed? (names : CharacterNames) : List Char → Option (List CodePoint × List Char)
  | '{' :: rest =>
    match rest.dropWhile (· != '}') with
    | [] => none
    | _ :: after => (names.find? (rest.takeWhile (· != '}'))).map fun c => ([.char c], after)
  | _ => none

/-- Takes what follows a backslash off the front: the code points that it stands for, and the rest.
An escape that is not known stands for itself, backslash included. -/
def takeEscape? (names : CharacterNames) (inBytes : Bool) :
    List Char → Option (List CodePoint × List Char)
  | [] => none
  | c :: rest =>
    if isOctal c then
      let more := (rest.take 2).takeWhile isOctal
      let n := digitsValue 8 (c :: more)
      some ([.char (Char.ofNat (if inBytes then n % 256 else n))], rest.drop more.length)
    else if c == 'x' then takeCodePoint? 2 rest
    else if c == 'u' && !inBytes then takeCodePoint? 4 rest
    else if c == 'U' && !inBytes then takeCodePoint? 8 rest
    else if c == 'N' && !inBytes then takeNamed? names rest
    else some (((simpleEscapes.lookup c).getD ['\\', c]).map .char, rest)

theorem length_takeCodePoint?_le {width : Nat} {cs rest : List Char} {out : List CodePoint}
    (h : takeCodePoint? width cs = some (out, rest)) : rest.length ≤ cs.length := by
  simp only [takeCodePoint?] at h
  split at h
  · simp only [Option.map_eq_some_iff, Prod.mk.injEq] at h
    obtain ⟨-, -, -, rfl⟩ := h
    simp
  · simp at h

theorem length_takeNamed?_le {names : CharacterNames} {cs rest : List Char} {out : List CodePoint}
    (h : takeNamed? names cs = some (out, rest)) : rest.length ≤ cs.length := by
  unfold takeNamed? at h
  split at h
  · rename_i tail
    have htail := (List.dropWhile_suffix (l := tail) (· != '}')).length_le
    split at h
    · cases h
    · rename_i after hafter
      simp only [Option.map_eq_some_iff, Prod.mk.injEq] at h
      obtain ⟨-, -, -, rfl⟩ := h
      rw [hafter, List.length_cons] at htail
      rw [List.length_cons]
      omega
  · cases h

/-- An escape takes at least one character. -/
theorem length_takeEscape?_lt {names : CharacterNames} {inBytes : Bool} {cs rest : List Char}
    {out : List CodePoint} (h : takeEscape? names inBytes cs = some (out, rest)) :
    rest.length < cs.length := by
  cases cs with
  | nil => simp [takeEscape?] at h
  | cons c cs =>
      simp only [takeEscape?] at h
      split at h
      · simp only [Option.some.injEq, Prod.mk.injEq] at h
        obtain ⟨-, rfl⟩ := h
        simp only [List.length_drop, List.length_cons]
        omega
      · split at h
        · exact Nat.lt_succ_of_le (length_takeCodePoint?_le h)
        · split at h
          · exact Nat.lt_succ_of_le (length_takeCodePoint?_le h)
          · split at h
            · exact Nat.lt_succ_of_le (length_takeCodePoint?_le h)
            · split at h
              · exact Nat.lt_succ_of_le (length_takeNamed?_le h)
              · simp only [Option.some.injEq, Prod.mk.injEq] at h
                obtain ⟨-, rfl⟩ := h
                simp

/-- The code points that the body of a literal stands for. -/
def unescape? (names : CharacterNames) (inBytes : Bool) (cs : List Char) :
    Option (List CodePoint) :=
  match cs with
  | [] => some []
  | c :: rest =>
    if c == '\\' then
      match _h : takeEscape? names inBytes rest with
      | some (out, rest) => (unescape? names inBytes rest).map (out ++ ·)
      | none => none
    else (unescape? names inBytes rest).map (.char c :: ·)
termination_by cs.length
decreasing_by
  · have := length_takeEscape?_lt _h
    simp only [List.length_cons]
    omega
  · simp

end TeachingTree.Literal

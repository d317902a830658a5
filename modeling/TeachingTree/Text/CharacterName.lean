/-
Names of characters.

A text may give a character by its name, such as `BULLET`.  The names come from a standard that
grows from year to year, so nothing here fixes them: a table of names is what a reader of texts is
given.  All tables have in common that names are written in ASCII.

Main definitions:

* `isCharacterName` — how names are written;
* `CharacterNames` — a table of names, and `CharacterNames.ofList`, which makes one.
-/

set_option relaxedAutoImplicit false
set_option autoImplicit false

namespace TeachingTree.Text

/-- Whether a text may be the name of a character: it is not empty and has letters and digits of
ASCII, spaces and hyphens only. -/
def isCharacterName (name : List Char) : Bool :=
  !name.isEmpty && name.all fun c => c.isAlphanum || c == ' ' || c == '-'

/-- A table of the names of characters. -/
structure CharacterNames where
  /-- The character of a name, if the table has the name. -/
  find? : List Char → Option Char
  /-- What the table has is written as names are. -/
  isCharacterName_of_find? : ∀ {name : List Char} {c : Char},
    find? name = some c → isCharacterName name = true

namespace CharacterNames

/-- The table of some names, which are given in capitals; small letters count as capitals. -/
def ofList (entries : List (String × Char)) : CharacterNames where
  find? name :=
    if isCharacterName name then entries.lookup (String.ofList (name.map Char.toUpper)) else none
  isCharacterName_of_find? {name c} h := by
    by_cases hname : isCharacterName name = true
    · exact hname
    · rw [if_neg hname] at h
      cases h

/-- The table without names. -/
def empty : CharacterNames := ofList []

instance : Inhabited CharacterNames := ⟨empty⟩

end CharacterNames

end TeachingTree.Text

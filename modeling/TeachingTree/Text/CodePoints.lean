/-
Sets of Unicode code points given by a table of closed ranges.

Main definitions:

* `CodePoints` — a list of ranges, both ends included;
* `CodePoints.has` — membership of a character, by looking the table through.

The character classes of the text modules are such tables, so that a class is data and one
membership test serves them all.
-/

set_option relaxedAutoImplicit false
set_option autoImplicit false

namespace TeachingTree.Text

/-- A set of code points as closed ranges `(first, last)`. -/
abbrev CodePoints := List (Nat × Nat)

namespace CodePoints

/-- A character belongs to the set when one of the ranges holds its code point. -/
def has (set : CodePoints) (c : Char) : Bool :=
  set.any fun (first, last) => first ≤ c.toNat && c.toNat ≤ last

@[simp] theorem has_nil (c : Char) : has [] c = false := rfl

@[simp] theorem has_cons (first last : Nat) (set : CodePoints) (c : Char) :
    has ((first, last) :: set) c = ((first ≤ c.toNat && c.toNat ≤ last) || has set c) := rfl

end CodePoints

end TeachingTree.Text

/-
Looking for a place in a text.

Main definitions:

* `anySuffix` — whether some suffix of a text has a property;
* `dropStart?`, `after?` — what follows a text at the start of another.
-/

set_option relaxedAutoImplicit false
set_option autoImplicit false

namespace TeachingTree.Text

/-- Whether some suffix of the text, the whole text and the empty one included, has the property. -/
def anySuffix (p : List Char → Bool) : List Char → Bool
  | [] => p []
  | c :: rest => p (c :: rest) || anySuffix p rest

/-- What follows the given characters at the start of a text, if it starts with them. -/
def dropStart? : List Char → List Char → Option (List Char)
  | [], cs => some cs
  | _ :: _, [] => none
  | s :: start, c :: cs => if s = c then dropStart? start cs else none

/-- What follows the given text at the start of another, if it starts with it. -/
def after? (start : String) (cs : List Char) : Option (List Char) := dropStart? start.toList cs

theorem dropStart?_eq_some_iff {start cs rest : List Char} :
    dropStart? start cs = some rest ↔ cs = start ++ rest := by
  induction start generalizing cs with
  | nil => simp [dropStart?]
  | cons s start ih =>
      cases cs with
      | nil => simp [dropStart?]
      | cons c cs =>
          by_cases h : s = c
          · simp [dropStart?, h, ih]
          · simp only [dropStart?, h, if_false, List.cons_append, List.cons.injEq, reduceCtorEq,
              false_iff, not_and]
            exact fun e => absurd e.symm h

theorem length_after?_le {start : String} {cs rest : List Char} (h : after? start cs = some rest) :
    rest.length ≤ cs.length := by
  rw [dropStart?_eq_some_iff.mp h, List.length_append]
  exact Nat.le_add_left _ _

theorem anySuffix_iff (p : List Char → Bool) (cs : List Char) :
    anySuffix p cs = true ↔ ∃ rest, rest <:+ cs ∧ p rest = true := by
  induction cs with
  | nil => simp [anySuffix]
  | cons c cs ih =>
      simp only [anySuffix, Bool.or_eq_true, ih, List.suffix_cons_iff]
      constructor
      · rintro (h | ⟨rest, hs, h⟩)
        · exact ⟨_, .inl rfl, h⟩
        · exact ⟨rest, .inr hs, h⟩
      · rintro ⟨rest, rfl | hs, h⟩
        · exact .inl h
        · exact .inr ⟨rest, hs, h⟩

end TeachingTree.Text

/-
Macros that stand for a token.

A macro without parameters whose body is one token stands for that token, which may again be the
name of such a macro.

Main definitions:

* `MacroTable` — the names of macros and the tokens that they stand for, the newest first;
* `macroOf?` — the entry that a cursor adds, if its macro stands for a token;
* `MacroTable.ofCursors` — the table of a list of cursors;
* `MacroTable.resolve` — the end of the chain of macros that starts at a token.
-/

import TeachingTree.Cursor.Basic

set_option relaxedAutoImplicit false
set_option autoImplicit false

namespace TeachingTree

/-- The tokens for which macros stand.  Of two entries for one name the first one holds. -/
abbrev MacroTable := List (String × String)

/-- The tokens of a macro without the words that introduce its definition. -/
def withoutDefine : List Token → List Token
  | first :: second :: rest =>
    if first.spelling == "#" && second.spelling == "define" then rest else first :: second :: rest
  | tokens => tokens

/-- The token for which the macro of a cursor stands, under the name of the macro.  A parenthesis
right after the name begins parameters. -/
def macroOf? (head : CursorHead) : Option (String × String) :=
  match withoutDefine head.tokens with
  | [name, body] =>
    if name.spelling != head.spelling then none
    else if body.spelling == "(" && body.start == name.stop then none
    else some (head.spelling, body.spelling)
  | _ => none

namespace MacroTable

/-- The table with the entry of a cursor, if it is a macro of some file that stands for a token. -/
def record (table : MacroTable) (cursor : Cursor) : MacroTable :=
  let head := cursor.head
  if head.kind = .macroDefinition ∧ (head.location.bind Place.file).isSome then
    match macroOf? head with
    | some entry => entry :: table
    | none => table
  else table

/-- The table of the macros among cursors. -/
def ofCursors (cursors : List Cursor) : MacroTable := cursors.foldl record []

/-- The table without the entries for a name. -/
def without (table : MacroTable) (name : String) : MacroTable :=
  table.filter fun entry => entry.1 != name

theorem length_without_lt {table : MacroTable} {name body : String}
    (h : table.lookup name = some body) : (table.without name).length < table.length := by
  induction table with
  | nil => simp at h
  | cons entry table ih =>
      obtain ⟨key, value⟩ := entry
      by_cases hk : key = name
      · subst hk
        simp only [without, bne_self_eq_false, Bool.false_eq_true, not_false_eq_true,
          List.filter_cons_of_neg, List.length_cons]
        exact Nat.lt_succ_of_le (List.length_filter_le _ _)
      · have hl : table.lookup name = some body := by
          have hne : (name == key) = false := by simpa using fun e : name = key => hk e.symm
          simpa [List.lookup_cons, hne] using h
        have := ih hl
        simp only [without, List.length_cons] at *
        rw [List.filter_cons_of_pos (by simpa using hk)]
        simp only [List.length_cons]
        omega

/-- The end of the chain of macros that starts at a token.  A name that comes up again ends the
chain, since every name is followed once. -/
def resolve (table : MacroTable) (token : String) : String :=
  match _h : table.lookup token with
  | some body => resolve (table.without token) body
  | none => token
termination_by table.length
decreasing_by exact length_without_lt _h

theorem resolve_of_lookup_eq_none {table : MacroTable} {token : String}
    (h : table.lookup token = none) : table.resolve token = token := by
  rw [resolve]
  split
  · rename_i body hb
    rw [h] at hb
    cases hb
  · rfl

theorem resolve_of_lookup_eq_some {table : MacroTable} {token body : String}
    (h : table.lookup token = some body) :
    table.resolve token = (table.without token).resolve body := by
  rw [resolve]
  split
  · rename_i other hb
    rw [h] at hb
    cases hb
    rfl
  · rename_i hb
    rw [h] at hb
    cases hb

/-- The token for which a token stands by one macro, or else itself. -/
def expand (table : MacroTable) (token : String) : String := (table.lookup token).getD token

end MacroTable

end TeachingTree

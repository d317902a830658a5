/-
**What the names of macros stand for.**

The table of macros is built from the definitions of a program, in order.  A definition without
parameters whose body is one token puts this token under its name.  Any other definition leaves the
table as it is, and with it the token that an earlier definition of the same name has put there.  So
a name stands for the body of the last of its definitions *that can stand for a token*.  This need
not be its last definition: if that one has parameters, no body or a longer one, the name stands for
what it meant before.

A token that is the name of a macro leads to the body of the macro, which may be such a name again.
The names on the way to a token that is no name are all different, because from a name that comes up
twice the way never ends.  So following every name at most once still leads to the end.

Main definitions:

* `MacroDefinition` — a macro as it is defined, and `MacroDefinition.standIn?`, the token for which
  it can stand;
* `MacroDefinition.named` — the definitions of a name in a program;
* `MacroTable.LeadsTo` — ways through macros to a token that is no name of a macro.

Main results:

* `MacroTable.lookup_ofCursors` — **a name stands for the last single token among its definitions**,
  and when this is what its last definition says;
* `MacroTable.lookup_redefined` — a name that stands for the body of a definition that is no longer
  its last one;
* `MacroTable.resolve_of_leadsTo` — **the end of every way through macros is found**.
-/

import Mathlib.Data.List.Induction
import TeachingTree.Cursor.Macro

set_option relaxedAutoImplicit false
set_option autoImplicit false

namespace TeachingTree

/-! ### Definitions -/

/-- A macro as it is defined. -/
structure MacroDefinition where
  /-- Its name. -/
  name : String
  /-- Whether it has parameters, which begin with a parenthesis right after the name. -/
  hasParameters : Bool
  /-- The tokens after the name. -/
  body : List String
  deriving DecidableEq, Repr

namespace MacroDefinition

/-- The definition of a cursor, if it is that of a macro of some file.  The tokens of the cursor
begin with the name, possibly after the words that introduce a definition. -/
def ofCursor? (cursor : Cursor) : Option MacroDefinition :=
  let head := cursor.head
  if head.kind = .macroDefinition ∧ (head.location.bind Place.file).isSome then
    match withoutDefine head.tokens with
    | [] => none
    | name :: body =>
      if name.spelling = head.spelling then
        some {
          name := head.spelling
          hasParameters := body.head?.any fun first =>
            first.spelling == "(" && first.start == name.stop
          body := body.map Token.spelling }
      else none
  else none

/-- The token for which a macro can stand: the body of a macro without parameters, if this is one
token. -/
def standIn? (definition : MacroDefinition) : Option String :=
  if definition.hasParameters then none
  else match definition.body with
    | [token] => some token
    | _ => none

/-- The definitions of a name, in order. -/
def named (name : String) (cursors : List Cursor) : List MacroDefinition :=
  (cursors.filterMap ofCursor?).filter fun definition => definition.name == name

theorem named_concat (name : String) (cursors : List Cursor) (cursor : Cursor) :
    named name (cursors ++ [cursor]) = named name cursors ++ named name [cursor] := by
  simp [named]

end MacroDefinition

namespace MacroTable

open MacroDefinition

/-! ### The table of a program -/

/-- The entry of a cursor is the token for which its definition can stand. -/
theorem record_eq (table : MacroTable) (cursor : Cursor) :
    table.record cursor =
      match ofCursor? cursor with
      | none => table
      | some definition =>
        match definition.standIn? with
        | none => table
        | some token => (definition.name, token) :: table := by
  simp only [record, ofCursor?]
  split
  · rw [macroOf?]
    match withoutDefine cursor.head.tokens with
    | [] => rfl
    | [name] =>
        by_cases hname : name.spelling = cursor.head.spelling <;> simp [hname, standIn?]
    | [name, body] =>
        by_cases hname : name.spelling = cursor.head.spelling
        · by_cases hopen : body.spelling = "(" ∧ body.start = name.stop
          · simp [hname, hopen, standIn?]
          · simp [hname, hopen, standIn?]
        · simp [hname]
    | name :: first :: second :: rest =>
        by_cases hname : name.spelling = cursor.head.spelling <;> simp [hname, standIn?]
  · rfl

/-- What a name stands for after one more cursor: the token of the definition of the cursor, if it
defines the name and can stand for a token, or else what the name stood for before. -/
theorem lookup_record (table : MacroTable) (name : String) (cursor : Cursor) :
    (table.record cursor).lookup name =
      (((named name [cursor]).filterMap standIn?).getLast?).or (table.lookup name) := by
  rw [record_eq]
  cases hcursor : ofCursor? cursor with
  | none => simp [named, hcursor]
  | some definition =>
      by_cases hname : definition.name = name
      · cases htoken : definition.standIn? with
        | none => simp [named, hcursor, hname, htoken]
        | some token => simp [named, hcursor, hname, htoken]
      · have hne : (name == definition.name) = false := by
          simpa using fun heq : name = definition.name => hname heq.symm
        cases htoken : definition.standIn? with
        | none => simp [named, hcursor, hname, htoken]
        | some token => simp [named, hcursor, hname, htoken, List.lookup_cons, hne]

/-- A name stands for the last token for which one of its definitions can stand. -/
theorem lookup_ofCursors_eq_getLast? (name : String) (cursors : List Cursor) :
    (ofCursors cursors).lookup name = ((named name cursors).filterMap standIn?).getLast? := by
  induction cursors using List.reverseRec with
  | nil => rfl
  | append_singleton cursors cursor ih =>
      have hlast : ofCursors (cursors ++ [cursor]) = (ofCursors cursors).record cursor := by
        rw [ofCursors, List.foldl_append]
        rfl
      rw [hlast, lookup_record, named_concat, List.filterMap_append, List.getLast?_append, ih]

/-- **A name stands for the last token for which one of its definitions can stand.**  This is what
its last definition says if and only if that one can stand for a token, or none of them can. -/
theorem lookup_ofCursors (name : String) (cursors : List Cursor) :
    (ofCursors cursors).lookup name = ((named name cursors).filterMap standIn?).getLast? ∧
      ((ofCursors cursors).lookup name = (named name cursors).getLast?.bind standIn? ↔
        ((named name cursors).getLast?.bind standIn?).isSome ∨
          ∀ definition ∈ named name cursors, definition.standIn? = none) := by
  have hlookup := lookup_ofCursors_eq_getLast? name cursors
  refine ⟨hlookup, ?_⟩
  rw [hlookup]
  rcases List.eq_nil_or_concat (named name cursors) with hnone | ⟨earlier, last, hlast⟩
  · simp [hnone]
  · rw [hlast, List.concat_eq_append, List.filterMap_append, List.getLast?_append,
      List.getLast?_concat, Option.bind_some]
    cases htoken : last.standIn? with
    | none =>
        -- the last definition is without effect, so no earlier one may have had any
        simp [htoken, or_imp, forall_and]
    | some token => simp [htoken]

/-- Two definitions of one name, the first one of a single token, the second one of three. -/
def limitDefinitions : List Cursor :=
  [.mk { kind := .macroDefinition, spelling := "LIMIT", location := some ⟨1, 9, 8, some "main.cpp"⟩
         tokens := [⟨"LIMIT", 8, 13⟩, ⟨"10", 14, 16⟩] } [] [],
    .mk { kind := .macroDefinition, spelling := "LIMIT"
          location := some ⟨3, 9, 38, some "main.cpp"⟩
          tokens := [⟨"LIMIT", 38, 43⟩, ⟨"(", 44, 45⟩, ⟨"12", 45, 47⟩, ⟨")", 47, 48⟩] } [] []]

/-- A name does not always stand for what its last definition says: after a definition of three
tokens it still stands for the token of the one before. -/
theorem lookup_redefined :
    (named "LIMIT" limitDefinitions).getLast?.map body = some ["(", "12", ")"] ∧
      (named "LIMIT" limitDefinitions).getLast?.bind standIn? = none ∧
      (ofCursors limitDefinitions).lookup "LIMIT" = some "10" := by
  decide

/-! ### Chains of macros -/

/-- The entries for one name do not matter for the others. -/
theorem lookup_without {table : MacroTable} {name token : String} (h : token ≠ name) :
    (table.without name).lookup token = table.lookup token := by
  induction table with
  | nil => rfl
  | cons entry table ih =>
      obtain ⟨key, value⟩ := entry
      rw [without] at ih ⊢
      by_cases hkey : key = name
      · have htoken : (token == key) = false := by simpa [hkey] using h
        simp [hkey, List.lookup_cons, ih, hkey ▸ htoken]
      · simp [hkey, List.lookup_cons, ih]

/-- So many macros lead from a token to one that is not the name of a macro. -/
inductive LeadsTo (table : MacroTable) : Nat → String → String → Prop where
  | here {token : String} (h : table.lookup token = none) : LeadsTo table 0 token token
  | step {count : Nat} {name body final : String} (h : table.lookup name = some body)
      (hbody : LeadsTo table count body final) : LeadsTo table (count + 1) name final

namespace LeadsTo

variable {table : MacroTable} {count count' : Nat} {token final final' : String}

theorem lookup_final (h : table.LeadsTo count token final) : table.lookup final = none := by
  induction h with
  | here h => exact h
  | step _ _ ih => exact ih

/-- A token leads to one end only, by one number of macros. -/
theorem count_unique (h : table.LeadsTo count token final)
    (h' : table.LeadsTo count' token final') : count = count' := by
  induction h generalizing count' with
  | here hnone =>
      cases h' with
      | here => rfl
      | step hsome => simp [hnone] at hsome
  | step hsome _ ih =>
      cases h' with
      | here hnone => simp [hnone] at hsome
      | step hsome' hbody' =>
          rw [hsome, Option.some.injEq] at hsome'
          subst hsome'
          rw [ih hbody']

/-- A way does not come across a name from which only longer ways start, so it is left as it is
without the entries for that name. -/
theorem without (h : table.LeadsTo count token final) {name : String}
    (hname : ∀ shorter ≤ count, ∀ other, ¬table.LeadsTo shorter name other) :
    (table.without name).LeadsTo count token final := by
  induction h with
  | @here token hnone =>
      have hne : token ≠ name := by
        rintro rfl
        exact hname 0 (Nat.le_refl 0) token (.here hnone)
      exact .here (by rwa [lookup_without hne])
  | @step count token body final hsome hbody ih =>
      have hne : token ≠ name := by
        rintro rfl
        exact hname (count + 1) (Nat.le_refl _) final (.step hsome hbody)
      have hrest := ih fun shorter hle => hname shorter (Nat.le_succ_of_le hle)
      exact .step (by rwa [lookup_without hne]) hrest

end LeadsTo

/-- **The end of every way through macros is found**, however long the way is. -/
theorem resolve_of_leadsTo {table : MacroTable} {count : Nat} {token final : String}
    (h : table.LeadsTo count token final) : table.resolve token = final := by
  induction count generalizing table token with
  | zero =>
      cases h with
      | here hnone => exact resolve_of_lookup_eq_none hnone
  | succ count ih =>
      cases h with
      | @step _ _ body _ hsome hbody =>
          -- all ways from the first name have one step more than the way from its body
          have hlonger : ∀ shorter ≤ count, ∀ other, ¬table.LeadsTo shorter token other := by
            intro shorter hle other hother
            have hcount := hother.count_unique (.step hsome hbody)
            omega
          rw [resolve_of_lookup_eq_some hsome]
          exact ih (hbody.without hlonger)

end MacroTable

end TeachingTree

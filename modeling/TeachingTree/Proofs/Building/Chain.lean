/-
**Chains of macros.**

A token that is the name of a macro stands for the body of the macro, which may be a name again,
and so on.  These texts are the chain of the token.  Macros may be defined by each other in a
circle, and then a chain that comes to the circle has no end.  The text of a literal is still found,
because it is looked for by a loop that remembers the names it has followed and stops at any of
them.  Since all of these names are different, the loop has at most as many rounds as there are
names.

A chain that has an end has no text twice: whatever follows one of two equal texts follows the other
as well.  So the loop stops at the end of the chain if there is one, and at the first text that
comes up again if there is none.

Main definitions:

* `MacroTable.names` — the names of macros;
* `MacroTable.chain` — the texts on the chain of a token, `MacroTable.EndsAt` and
  `MacroTable.RepeatsAt`, whether the chain ends at a text or comes back to it;
* `MacroTable.Walk` — a text on the chain and the names that were followed, and
  `MacroTable.Walk.round`, one name more.

Main results:

* `MacroTable.exists_endsAfter_resolve` — the loop ends at the text that a token is resolved to;
* `MacroTable.follows_round`, `MacroTable.follows_of_rounds` — what the loop remembers is the chain
  up to its text, and nothing comes up twice there;
* `Building.literalText_chain` — **the text of a literal is the end of its chain, or the first text
  that comes up again**.
-/

import Mathlib.Data.Finset.Card
import Mathlib.Order.Bounds.Defs
import TeachingTree.Building.Expression
import TeachingTree.Proofs.Cursor.Macro
import TeachingTree.Proofs.Rounds

set_option relaxedAutoImplicit false
set_option autoImplicit false

namespace TeachingTree

namespace MacroTable

/-! ### Chains -/

/-- The names of the macros of a table. -/
def names (table : MacroTable) : Finset String := (table.map Prod.fst).toFinset

/-- The text that is so many macros behind a token, if the chain of the token is that long. -/
def chain (table : MacroTable) (token : String) : Nat → Option String
  | 0 => some token
  | count + 1 => (chain table token count).bind fun text => table.lookup text

/-- The chain of a token ends after so many macros, at a text that is no name. -/
def EndsAt (table : MacroTable) (token : String) (count : Nat) : Prop :=
  ∃ text ∉ table.names, table.chain token count = some text

/-- The text that is so many macros behind a token stands on the chain before. -/
def RepeatsAt (table : MacroTable) (token : String) (count : Nat) : Prop :=
  ∃ text, table.chain token count = some text ∧
    ∃ earlier < count, table.chain token earlier = some text

theorem notMem_names_iff {table : MacroTable} {name : String} :
    name ∉ table.names ↔ table.lookup name = none := by
  rw [List.lookup_eq_none_iff, names, List.mem_toFinset, List.mem_map]
  constructor
  · intro h entry hentry
    rw [bne_iff_ne]
    rintro rfl
    exact h ⟨entry, hentry, rfl⟩
  · rintro h ⟨entry, hentry, rfl⟩
    exact bne_iff_ne.1 (h entry hentry) rfl

theorem chain_succ {table : MacroTable} {token text : String} {count : Nat}
    (h : table.chain token count = some text) :
    table.chain token (count + 1) = table.lookup text := by
  rw [chain, h, Option.bind_some]

/-! ### The loop -/

/-- Where the loop along a chain is. -/
structure Walk where
  /-- The text to which it has come. -/
  text : String
  /-- The names that it has followed. -/
  seen : Finset String

namespace Walk

/-- Follows the text to which the loop has come, if it is a name that was not followed before. -/
def round (table : MacroTable) (walk : Walk) : Option Walk :=
  if walk.text ∈ walk.seen then none
  else (table.lookup walk.text).map fun body => ⟨body, insert walk.text walk.seen⟩

/-- What a round does: the text is a new name, and the loop goes on with its body. -/
theorem round_eq_some_iff {table : MacroTable} {walk after : Walk} :
    round table walk = some after ↔
      walk.text ∉ walk.seen ∧ ∃ body, table.lookup walk.text = some body ∧
        after = ⟨body, insert walk.text walk.seen⟩ := by
  rw [round]
  split <;> simp [*, eq_comm]

theorem round_eq_none_iff {table : MacroTable} {walk : Walk} :
    round table walk = none ↔ walk.text ∈ walk.seen ∨ table.lookup walk.text = none := by
  rw [round]
  split <;> simp [*]

end Walk

theorem lookup_without_self (table : MacroTable) (name : String) :
    (table.without name).lookup name = none := by
  rw [List.lookup_eq_none_iff]
  intro entry hentry
  have hkey : (entry.1 != name) = true := (List.mem_filter.1 hentry).2
  rwa [bne_comm] at hkey

/-- **The loop ends at the text to which a token is resolved.**  Resolving a token takes the names
that it follows out of the table, and the loop remembers them. -/
theorem exists_endsAfter_resolve {table others : MacroTable} {seen : Finset String}
    (h : ∀ name, others.lookup name = if name ∈ seen then none else table.lookup name)
    (text : String) :
    ∃ count stop, EndsAfter (Walk.round table) count ⟨text, seen⟩ stop ∧
      stop.text = others.resolve text := by
  induction others, text using MacroTable.resolve.induct generalizing seen with
  | case1 others text body hbody ih =>
      have hnew : text ∉ seen := by
        intro hseen
        rw [h, if_pos hseen] at hbody
        cases hbody
      have hlookup : table.lookup text = some body := by rw [← hbody, h, if_neg hnew]
      have hround : Walk.round table ⟨text, seen⟩ = some ⟨body, insert text seen⟩ :=
        Walk.round_eq_some_iff.2 ⟨hnew, body, hlookup, rfl⟩
      have hrest : ∀ name, (others.without text).lookup name =
          if name ∈ insert text seen then none else table.lookup name := by
        intro name
        by_cases hname : name = text
        · rw [hname, lookup_without_self, if_pos (Finset.mem_insert_self text seen)]
        · rw [lookup_without hname, h]
          simp [hname]
      obtain ⟨count, stop, hstop, htext⟩ := ih hrest
      refine ⟨count + 1, stop, hstop.cons hround, ?_⟩
      rw [htext, resolve_of_lookup_eq_some hbody]
  | case2 others text hnone =>
      refine ⟨0, ⟨text, seen⟩, ⟨.zero, ?_⟩, (resolve_of_lookup_eq_none hnone).symm⟩
      rw [Walk.round_eq_none_iff]
      have hlookup := h text
      rw [hnone] at hlookup
      by_cases hseen : text ∈ seen
      · exact .inl hseen
      · rw [if_neg hseen] at hlookup
        exact .inr hlookup.symm

/-- The loop has followed the chain of a token so many times: it remembers the texts before its own,
which are names and all different. -/
structure Follows (table : MacroTable) (token : String) (count : Nat) (walk : Walk) : Prop where
  chain_eq : table.chain token count = some walk.text
  mem_seen_iff : ∀ text,
    text ∈ walk.seen ↔ ∃ earlier < count, table.chain token earlier = some text
  card_seen : walk.seen.card = count
  seen_subset : walk.seen ⊆ table.names
  notRepeats : ∀ earlier < count, ¬table.RepeatsAt token earlier

section Follows

variable {table : MacroTable} {token : String} {count : Nat} {walk after : Walk}

theorem follows_start (table : MacroTable) (token : String) :
    table.Follows token 0 ⟨token, ∅⟩ where
  chain_eq := rfl
  mem_seen_iff := by simp
  card_seen := rfl
  seen_subset := Finset.empty_subset _
  notRepeats := by simp

/-- A round follows the chain once more. -/
theorem follows_round (h : table.Follows token count walk)
    (hround : Walk.round table walk = some after) : table.Follows token (count + 1) after := by
  obtain ⟨hnew, body, hbody, rfl⟩ := Walk.round_eq_some_iff.1 hround
  refine ⟨?chain, ?seen, ?card, ?names, ?repeats⟩
  case chain => rw [chain_succ h.chain_eq, hbody]
  case seen =>
    intro text
    simp only [Finset.mem_insert, h.mem_seen_iff, Nat.lt_succ_iff_lt_or_eq]
    constructor
    · rintro (rfl | ⟨earlier, hlt, hearlier⟩)
      · exact ⟨count, .inr rfl, h.chain_eq⟩
      · exact ⟨earlier, .inl hlt, hearlier⟩
    · rintro ⟨earlier, hlt | rfl, hearlier⟩
      · exact .inr ⟨earlier, hlt, hearlier⟩
      · rw [h.chain_eq, Option.some.injEq] at hearlier
        exact .inl hearlier.symm
  case card => rw [Finset.card_insert_of_notMem hnew, h.card_seen]
  case names =>
    refine Finset.insert_subset ?_ h.seen_subset
    by_contra hname
    rw [notMem_names_iff.1 hname] at hbody
    cases hbody
  case repeats =>
    intro earlier hlt
    rcases Nat.lt_succ_iff_lt_or_eq.1 hlt with hlt | rfl
    · exact h.notRepeats earlier hlt
    · -- the text of the last round was not remembered
      rintro ⟨text, htext, hbefore⟩
      rw [h.chain_eq, Option.some.injEq] at htext
      exact hnew ((h.mem_seen_iff walk.text).2 (htext ▸ hbefore))

/-- What the loop remembers is the chain up to its text, and nothing comes up twice there. -/
theorem follows_of_rounds (h : Rounds (Walk.round table) ⟨token, ∅⟩ count walk) :
    table.Follows token count walk := by
  induction h with
  | zero => exact follows_start table token
  | succ _ hround ih => exact follows_round ih hround

/-- The loop has as many rounds as there are names at the most. -/
theorem Follows.count_le (h : table.Follows token count walk) : count ≤ table.names.card := by
  rw [← h.card_seen]
  exact Finset.card_le_card h.seen_subset

/-- The chain has not ended before the text of the loop. -/
theorem Follows.not_endsAt (h : table.Follows token count walk) {earlier : Nat}
    (hlt : earlier < count) : ¬table.EndsAt token earlier := by
  rintro ⟨text, hname, htext⟩
  exact hname (h.seen_subset ((h.mem_seen_iff text).2 ⟨earlier, hlt, htext⟩))

/-- A chain that comes back to a text never leaves the texts before it. -/
theorem Follows.mem_seen_of_repeat (h : table.Follows token count walk)
    (hseen : walk.text ∈ walk.seen) (place : Nat) :
    ∃ text ∈ walk.seen, table.chain token place = some text := by
  induction place with
  | zero =>
      obtain ⟨earlier, hlt, -⟩ := (h.mem_seen_iff _).1 hseen
      exact ⟨token, (h.mem_seen_iff token).2 ⟨0, by omega, rfl⟩, rfl⟩
  | succ place ih =>
      obtain ⟨text, htext, hplace⟩ := ih
      obtain ⟨earlier, hlt, hearlier⟩ := (h.mem_seen_iff text).1 htext
      have hsucc := (chain_succ hplace).trans (chain_succ hearlier).symm
      -- what follows the text in its earlier place stands before the text of the loop, or is it
      rcases Nat.lt_or_eq_of_le hlt with hbefore | hlast
      · cases hbody : table.chain token (earlier + 1) with
        | none =>
            rw [chain_succ hearlier] at hbody
            exact absurd (h.seen_subset htext) (notMem_names_iff.2 hbody)
        | some body =>
            exact ⟨body, (h.mem_seen_iff body).2 ⟨earlier + 1, hbefore, hbody⟩, hsucc.trans hbody⟩
      · rw [← Nat.succ_eq_add_one earlier, hlast, h.chain_eq] at hsucc
        exact ⟨walk.text, hseen, hsucc⟩

/-- Where the loop ends, the chain ends for the first time, or it never does and a text comes up
again for the first time. -/
theorem Follows.isLeast (h : table.Follows token count walk)
    (hends : Walk.round table walk = none) :
    IsLeast {place | table.EndsAt token place} count ∨
      (∀ place, ¬table.EndsAt token place) ∧
        IsLeast {place | table.RepeatsAt token place} count := by
  by_cases hseen : walk.text ∈ walk.seen
  · refine .inr ⟨?_, ⟨walk.text, h.chain_eq, (h.mem_seen_iff _).1 hseen⟩, ?_⟩
    · rintro place ⟨text, hname, htext⟩
      obtain ⟨other, hother, heq⟩ := h.mem_seen_of_repeat hseen place
      rw [htext, Option.some.injEq] at heq
      exact hname (h.seen_subset (heq ▸ hother))
    · intro place hplace
      exact Nat.not_lt.1 fun hlt => h.notRepeats place hlt hplace
  · have hnone := (Walk.round_eq_none_iff.1 hends).resolve_left hseen
    refine .inl ⟨⟨walk.text, notMem_names_iff.2 hnone, h.chain_eq⟩, ?_⟩
    intro place hplace
    exact Nat.not_lt.1 fun hlt => h.not_endsAt hlt hplace

end Follows

end MacroTable

namespace Building

open MacroTable

/-- **The text of a literal is the end of the chain of its first token, or the first text that comes
up again if the chain has no end.**  The loop that looks for it ends, after as many rounds as there
are names of macros at the most, whatever the macros are. -/
theorem literalText_chain (table : MacroTable) (head : CursorHead) (first : Token)
    (rest : List Token) :
    ∃ count ≤ table.names.card, ∃ stop : Walk,
      EndsAfter (Walk.round table) count ⟨first.spelling, ∅⟩ stop ∧
      literalText table { head with tokens := first :: rest } = stop.text ∧
      table.chain first.spelling count = some stop.text ∧
      (IsLeast {place | table.EndsAt first.spelling place} count ∨
        (∀ place, ¬table.EndsAt first.spelling place) ∧
          IsLeast {place | table.RepeatsAt first.spelling place} count) := by
  have hsame : ∀ name, table.lookup name =
      if name ∈ (∅ : Finset String) then none else table.lookup name := by simp
  obtain ⟨count, stop, hstop, htext⟩ := exists_endsAfter_resolve hsame first.spelling
  have hfollows := follows_of_rounds hstop.rounds
  exact ⟨count, hfollows.count_le, stop, hstop, htext.symm, hfollows.chain_eq,
    hfollows.isLeast hstop.ends⟩

/-- Behind its first name this chain goes round in a circle. -/
example : literalText [("A", "B"), ("B", "C"), ("C", "B")]
    { kind := .integerLiteral, tokens := [⟨"A", 0, 1⟩] } = "B" := by
  decide +kernel

end Building

end TeachingTree

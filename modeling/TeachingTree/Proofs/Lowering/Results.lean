/-
**Sites and their results.**

When the lowering of a site succeeds, each of its parts has one result, and the results stand in
the order of the parts.  A relation between sites and results that every site inherits from its
parts therefore holds of all successes; this is how statements about results are proved.

* `Site.forall₂_lowerAll` — what relates sites to their results relates lists of them;
* `Site.rel_of_lower` — **a relation that is inherited from the parts holds of every success**;
* `Site.exists_lower_unit_of_lowerProgram` — the success of a program;
* `exists_of_forall₂_concat`, `exists_of_mem_of_forall₂` — related lists.
-/

import TeachingTree.Proofs.Lowering.Step
import Mathlib.Data.List.Forall2

set_option relaxedAutoImplicit false
set_option autoImplicit false

namespace TeachingTree.Lowering

/-! ### Related lists -/

section Lists

variable {α β : Type} {R : α → β → Prop} {xs : List α} {ys : List β}

/-- Related lists of which one has a last element. -/
theorem exists_of_forall₂_concat {x : α} (h : List.Forall₂ R (xs ++ [x]) ys) :
    ∃ init last, List.Forall₂ R xs init ∧ R x last ∧ ys = init ++ [last] := by
  induction xs generalizing ys with
  | nil =>
      rcases h with _ | ⟨hx, _ | _⟩
      exact ⟨[], _, .nil, hx, rfl⟩
  | cons first xs ih =>
      obtain ⟨y, rest, hy, hrest, rfl⟩ := List.forall₂_cons_left_iff.1 h
      obtain ⟨init, last, hinit, hlast, rfl⟩ := ih hrest
      exact ⟨y :: init, last, .cons hy hinit, hlast, rfl⟩

theorem exists_of_mem_of_forall₂ (h : List.Forall₂ R xs ys) {y : β} (hy : y ∈ ys) :
    ∃ x ∈ xs, R x y := by
  induction h with
  | nil => simp at hy
  | cons h _ ih =>
      rcases List.mem_cons.1 hy with rfl | hy
      · exact ⟨_, List.mem_cons_self .., h⟩
      · obtain ⟨x, hx, hxy⟩ := ih hy
        exact ⟨x, List.mem_cons_of_mem _ hx, hxy⟩

end Lists

namespace Site

variable {verbose : Bool}

/-! ### Results in order -/

/-- What relates single sites to their results relates lists of sites to theirs. -/
theorem forall₂_lowerAll {R : Site → Schema → Prop} {sites : List Site}
    (h : ∀ site ∈ sites, ∀ {s last : State} {r : Schema},
      site.lower verbose s = (.ok r, last) → R site r)
    {s last : State} {results : List Schema}
    (hrun : lowerAll verbose sites s = (.ok results, last)) : List.Forall₂ R sites results := by
  induction sites generalizing s results with
  | nil =>
      simp only [lowerAll_nil_apply, Lower.outcome_eq_iff, Except.ok.injEq] at hrun
      rw [← hrun.1]
      exact .nil
  | cons site sites ih =>
      obtain ⟨r, rs, after, hr, hrs, rfl⟩ := lowerAll_cons_eq_ok_iff.1 hrun
      exact .cons (h site (List.mem_cons_self ..) hr)
        (ih (fun other hother => h other (List.mem_cons_of_mem _ hother)) hrs)

theorem length_of_lowerAll {sites : List Site} {s last : State} {results : List Schema}
    (hrun : lowerAll verbose sites s = (.ok results, last)) : results.length = sites.length :=
  (forall₂_lowerAll (R := fun _ _ => True) (fun _ _ {_ _ _} _ => trivial) hrun).length_eq.symm

/-- **A relation that is inherited from the parts holds of every success.** -/
theorem rel_of_lower {R : Site → Schema → Prop}
    (h : ∀ site inChain id results,
      List.Forall₂ (fun part r => part ∈ site.parts ∧ R part r) site.parts results →
        R site (site.result inChain id results))
    {site : Site} {s last : State} {r : Schema} (hrun : site.lower verbose s = (.ok r, last)) :
    R site r := by
  induction site using Site.induction generalizing s last r with
  | h site ih =>
      obtain ⟨-, results, after, hparts, rfl, -⟩ := lower_eq_ok_iff.1 hrun
      obtain ⟨start, end_, -, -, -, hall⟩ := exists_lowerAll_of_lowerParts hparts
      refine h site _ _ results (forall₂_lowerAll ?_ hall)
      intro part hpart s last r hr
      exact ⟨hpart, ih part hpart hr⟩

/-- The document of a program is what all its declarations are lowered to from a fresh state. -/
theorem exists_lower_unit_of_lowerProgram {decls : List Node} {document : Schema}
    (h : (lowerProgram verbose decls).1 = .ok document) :
    ∃ last, (unit decls).lower verbose {} = (.ok document, last) := by
  rcases hrun : (unit decls).lower verbose {} with ⟨outcome, last⟩
  have houtcome : (lowerProgram verbose decls).1 = ((unit decls).lower verbose {}).1 := rfl
  rw [houtcome, hrun] at h
  obtain rfl : outcome = .ok document := h
  exact ⟨last, rfl⟩

end Site

end TeachingTree.Lowering

/-
**Exactly when a lowering fails.**

A lowering stops at the first of its live sites that has no rule, and at no other: where none of
the live sites is without a rule it succeeds, whatever the state it starts from.  Whether and how
it fails is thus a question about the source tree alone, answered by a search through
`Site.live`.

* `Site.firstOffence?` — the first failure among the live sites of a site;
* `failure?` — the failure in which an outcome consists, if it is one;
* `Site.failure?_lower` — **a lowering fails with the first failure of its live sites**;
* `lowerProgram_failure` — what that means for programs.
-/

import TeachingTree.Proofs.Lowering.Step

set_option relaxedAutoImplicit false
set_option autoImplicit false

namespace TeachingTree.Lowering

/-! ### The first failure in a list -/

/-- The failure in which an outcome consists, if it is one. -/
def failure? {α : Type} : Except LoweringError α → Option LoweringError
  | .error e => some e
  | .ok _ => none

theorem failure?_eq_some_iff {α : Type} {x : Except LoweringError α} {e : LoweringError} :
    failure? x = some e ↔ x = .error e := by
  cases x <;> simp [failure?]

theorem failure?_eq_none_iff {α : Type} {x : Except LoweringError α} :
    failure? x = none ↔ ∃ r, x = .ok r := by
  cases x <;> simp [failure?]

/-- The first hit in joined lists is the first hit in the first list that has one. -/
theorem findSome?_flatMap {α β γ : Type} (xs : List α) (f : α → List β) (g : β → Option γ) :
    (xs.flatMap f).findSome? g = xs.findSome? fun x => (f x).findSome? g := by
  induction xs with
  | nil => rfl
  | cons x xs ih =>
      rw [List.flatMap_cons, List.findSome?_append, ih, List.findSome?_cons]
      cases (f x).findSome? g <;> rfl

namespace Site

/-- The first failure among the live sites of a site. -/
def firstOffence? (site : Site) : Option LoweringError := site.live.findSome? offence?

theorem firstOffence?_eq (site : Site) :
    site.firstOffence? = site.offence?.or (site.parts.findSome? firstOffence?) := by
  rw [firstOffence?, live_eq, List.findSome?_cons, findSome?_flatMap]
  cases site.offence? <;> rfl

/-- A failure is that of a node in the place of an expression or of a declaration, and it tells
where that node is. -/
theorem node_of_offence {site : Site} {e : LoweringError} (h : site.offence? = some e) :
    ∃ node, (site = .expr node ∨ site = .decl node) ∧ e.position? = node.position? := by
  cases site with
  | expr node =>
      refine ⟨node, .inl rfl, ?_⟩
      cases node <;> simp [offence?, hasExprRule] at h <;> subst h <;> rfl
  | decl node =>
      refine ⟨node, .inr rfl, ?_⟩
      cases node <;> simp [offence?, hasDeclRule] at h <;> subst h <;> rfl
  | _ => simp [offence?] at h

/-! ### The failure of a lowering -/

variable (verbose : Bool)

/-- Sites in order fail with the first failure of the first site that has one. -/
theorem failure?_lowerAll {sites : List Site}
    (h : ∀ site ∈ sites, ∀ s : State, failure? (site.lower verbose s).1 = site.firstOffence?)
    (s : State) :
    failure? (lowerAll verbose sites s).1 = sites.findSome? firstOffence? := by
  induction sites generalizing s with
  | nil => rfl
  | cons site sites ih =>
      have hsite := h site (List.mem_cons_self ..) s
      have hsites := ih fun other hother => h other (List.mem_cons_of_mem _ hother)
      rw [lowerAll_cons_apply, List.findSome?_cons, ← hsite]
      rcases site.lower verbose s with ⟨e | r, after⟩
      · rfl
      · have hafter := hsites after
        simp only [failure?]
        rcases hrs : lowerAll verbose sites after with ⟨e | rs, last⟩ <;> rw [hrs] at hafter <;>
          exact hafter

/-- One step: a site fails by itself, or else as its parts do. -/
theorem failure?_step {site : Site}
    (h : ∀ part ∈ site.parts, ∀ s : State, failure? (part.lower verbose s).1 = part.firstOffence?)
    (s : State) : failure? (site.step verbose s).1 = site.firstOffence? := by
  have hparts : ∀ s : State,
      failure? (site.lowerParts verbose s).1 = site.parts.findSome? firstOffence? := by
    intro s
    -- the chain flag has no influence on failures
    cases hchain : site.isChain with
    | false =>
        rw [lowerParts_of_not_isChain hchain]
        exact failure?_lowerAll verbose h s
    | true =>
        rw [lowerParts_of_isChain hchain]
        exact failure?_lowerAll verbose h { s with chainActive := true }
  rw [firstOffence?_eq, ← hparts (site.enter verbose s), step]
  cases site.offence? with
  | some e => rfl
  | none =>
      rcases site.lowerParts verbose (site.enter verbose s) with ⟨e | results, after⟩ <;> rfl

/-- **A lowering fails with the first failure of its live sites**, and succeeds if there is
none. -/
theorem failure?_lower (site : Site) (s : State) :
    failure? (site.lower verbose s).1 = site.firstOffence? := by
  induction site using Site.induction generalizing s with
  | h site ih =>
      rw [lower_eq_step]
      exact failure?_step verbose (fun part hpart s => ih part hpart s) s

theorem lower_eq_error_iff (site : Site) (s : State) (e : LoweringError) :
    (site.lower verbose s).1 = .error e ↔
      ∃ before culprit later, site.live = before ++ culprit :: later ∧
        culprit.offence? = some e ∧ ∀ other ∈ before, other.offence? = none := by
  rw [← failure?_eq_some_iff, failure?_lower, firstOffence?, List.findSome?_eq_some_iff]

theorem exists_lower_eq_ok_iff (site : Site) (s : State) :
    (∃ r, (site.lower verbose s).1 = .ok r) ↔ ∀ other ∈ site.live, other.offence? = none := by
  rw [← failure?_eq_none_iff, failure?_lower, firstOffence?, List.findSome?_eq_none_iff]

end Site

/-! ### Programs -/

/-- What a program is lowered to is a document. -/
theorem eq_document_of_lowerUnit {verbose : Bool} {decls : List Node} {s : State} {r : Schema}
    (h : (lowerUnit verbose decls s).1 = .ok r) : ∃ id statements, r = .document id statements := by
  rcases hrun : (Site.unit decls).lower verbose s with ⟨x, last⟩
  have hx : x = .ok r := by rw [← h, ← Site.lower_unit, hrun]
  subst hx
  obtain ⟨-, results, after, -, hr, -⟩ := Site.lower_eq_ok_iff.1 hrun
  exact ⟨_, _, hr⟩

/-- **Exactly when the lowering of a program fails.**  It fails if and only if some live site is
without a rule; the error is that of the first such site in the order of the lowering, and tells
its place; otherwise the program has a document. -/
theorem lowerProgram_failure (verbose : Bool) (decls : List Node) :
    ((∃ e, (lowerProgram verbose decls).1 = .error e) ↔
      ∃ site ∈ (Site.unit decls).live, site.offence? ≠ none) ∧
    (∀ e, (lowerProgram verbose decls).1 = .error e ↔
      ∃ before culprit later, (Site.unit decls).live = before ++ culprit :: later ∧
        (∀ other ∈ before, other.offence? = none) ∧ culprit.offence? = some e ∧
        ∃ node, (culprit = .expr node ∨ culprit = .decl node) ∧ e.position? = node.position?) ∧
    ((∀ site ∈ (Site.unit decls).live, site.offence? = none) ↔
      ∃ id statements, (lowerProgram verbose decls).1 = .ok (.document id statements)) := by
  have hrun : (lowerProgram verbose decls).1 = ((Site.unit decls).lower verbose {}).1 := rfl
  have hok := Site.exists_lower_eq_ok_iff verbose (.unit decls) {}
  have herror := Site.lower_eq_error_iff verbose (.unit decls) {}
  rw [← hrun] at hok
  simp only [← hrun] at herror
  refine ⟨⟨?_, ?_⟩, fun e => ⟨?_, ?_⟩, ?_, ?_⟩
  · rintro ⟨e, he⟩
    obtain ⟨before, culprit, later, hlive, hculprit, -⟩ := (herror e).1 he
    refine ⟨culprit, by simp [hlive], by simp [hculprit]⟩
  · rintro ⟨site, hsite, hoffence⟩
    cases hout : (lowerProgram verbose decls).1 with
    | error e => exact ⟨e, rfl⟩
    | ok r => exact absurd (hok.1 ⟨r, hout⟩ site hsite) hoffence
  · intro he
    obtain ⟨before, culprit, later, hlive, hculprit, hbefore⟩ := (herror e).1 he
    exact ⟨before, culprit, later, hlive, hbefore, hculprit, Site.node_of_offence hculprit⟩
  · rintro ⟨before, culprit, later, hlive, hbefore, hculprit, -⟩
    exact (herror e).2 ⟨before, culprit, later, hlive, hculprit, hbefore⟩
  · intro hnone
    obtain ⟨r, hr⟩ := hok.2 hnone
    obtain ⟨id, statements, rfl⟩ := eq_document_of_lowerUnit (hrun.symm.trans hr)
    exact ⟨id, statements, hr⟩
  · rintro ⟨id, statements, hr⟩
    exact hok.1 ⟨_, hr⟩

end TeachingTree.Lowering

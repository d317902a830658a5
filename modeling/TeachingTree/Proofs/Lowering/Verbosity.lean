/-
**The log has no influence.**

A lowering that is asked to tell more logs more lines, and what was logged before it started stands
before them.  Neither is ever looked at: lowerings from states that differ in nothing but their logs
hand out the same numbers and end alike, whether they are verbose or not.

* `State.Agrees` — states that differ in nothing but their logs;
* `Agree` — outcomes that are the same apart from the log;
* `Site.agree_step` — one site ends alike if its parts do;
* `Site.agree_lower` — **the log has no influence**;
* `lowerProgram_verbose` — what that means for programs.
-/

import TeachingTree.Proofs.Lowering.Step

set_option relaxedAutoImplicit false
set_option autoImplicit false

namespace TeachingTree.Lowering

/-! ### Agreement apart from the log -/

/-- `s.Agrees t`: the counter and the chain flag of the two states are the same. -/
structure State.Agrees (s t : State) : Prop where
  nextId_eq : s.nextId = t.nextId
  chainActive_eq : s.chainActive = t.chainActive

namespace State

variable {s t : State}

theorem Agrees.refl (s : State) : s.Agrees s := ⟨rfl, rfl⟩

theorem Agrees.advance (h : s.Agrees t) (takes : Bool) :
    (s.advance takes).Agrees (t.advance takes) := by
  cases takes with
  | false => exact h
  | true =>
      refine ⟨?_, h.chainActive_eq⟩
      simp only [State.advance, if_true, h.nextId_eq]

end State

/-- Outcomes that are the same apart from the log. -/
def Agree {α : Type} (x y : Except LoweringError α × State) : Prop := x.1 = y.1 ∧ x.2.Agrees y.2

/-- Two runs that end alike both fail in the same way or both succeed with the same. -/
theorem Agree.error_or_ok {α : Type} {x y : Except LoweringError α × State} (h : Agree x y) :
    (∃ e s t, x = (.error e, s) ∧ y = (.error e, t) ∧ s.Agrees t) ∨
      ∃ a s t, x = (.ok a, s) ∧ y = (.ok a, t) ∧ s.Agrees t := by
  obtain ⟨x, s⟩ := x
  obtain ⟨y, t⟩ := y
  obtain ⟨hout, hst⟩ := h
  obtain rfl : x = y := hout
  cases x with
  | error e => exact .inl ⟨e, s, t, rfl, rfl, hst⟩
  | ok a => exact .inr ⟨a, s, t, rfl, rfl, hst⟩

/-- What ends alike inside a chain ends alike around the chain too. -/
theorem agree_withinChain {α : Type} {x y : Lower α}
    (h : ∀ {s t : State}, s.Agrees t → Agree (x s) (y t)) {s t : State} (hst : s.Agrees t) :
    Agree (Lower.withinChain x s) (Lower.withinChain y t) := by
  have hstart : State.Agrees { s with chainActive := true } { t with chainActive := true } :=
    ⟨hst.nextId_eq, rfl⟩
  obtain ⟨hout, hafter⟩ := h hstart
  rw [Lower.withinChain_apply, Lower.withinChain_apply, ← hst.chainActive_eq]
  refine ⟨hout, ?_⟩
  cases s.chainActive with
  | true => exact hafter
  | false => exact ⟨hafter.nextId_eq, rfl⟩

namespace Site

variable (verbose more : Bool)

/-! ### One site -/

theorem agrees_enter (site : Site) {s t : State} (h : s.Agrees t) :
    (site.enter verbose s).Agrees (site.enter more t) := by
  have hadvance := h.advance site.numbersFirst
  exact ⟨hadvance.nextId_eq, hadvance.chainActive_eq⟩

theorem agree_lowerAll {sites : List Site}
    (h : ∀ site ∈ sites, ∀ {s t : State}, s.Agrees t →
      Agree (site.lower verbose s) (site.lower more t))
    {s t : State} (hst : s.Agrees t) :
    Agree (lowerAll verbose sites s) (lowerAll more sites t) := by
  induction sites generalizing s t with
  | nil => exact ⟨rfl, hst⟩
  | cons site sites ih =>
      have hsites := @ih fun other hother => h other (List.mem_cons_of_mem _ hother)
      rw [lowerAll_cons_apply, lowerAll_cons_apply]
      obtain ⟨e, after, after', hx, hy, hafter⟩ | ⟨r, after, after', hx, hy, hafter⟩ :=
        (h site (List.mem_cons_self ..) hst).error_or_ok
      · rw [hx, hy]
        exact ⟨rfl, hafter⟩
      · rw [hx, hy]
        simp only
        obtain ⟨e, last, last', hx, hy, hlast⟩ | ⟨rs, last, last', hx, hy, hlast⟩ :=
          (hsites hafter).error_or_ok
        · rw [hx, hy]
          exact ⟨rfl, hlast⟩
        · rw [hx, hy]
          exact ⟨rfl, hlast⟩

/-- One step: a site ends alike if its parts do. -/
theorem agree_step {site : Site}
    (h : ∀ part ∈ site.parts, ∀ {s t : State}, s.Agrees t →
      Agree (part.lower verbose s) (part.lower more t))
    {s t : State} (hst : s.Agrees t) : Agree (site.step verbose s) (site.step more t) := by
  have hparts : ∀ {s t : State}, s.Agrees t →
      Agree (site.lowerParts verbose s) (site.lowerParts more t) := by
    intro s t hst
    cases hchain : site.isChain with
    | false =>
        rw [lowerParts_of_not_isChain hchain, lowerParts_of_not_isChain hchain]
        exact agree_lowerAll verbose more h hst
    | true =>
        rw [lowerParts_of_isChain hchain, lowerParts_of_isChain hchain]
        exact agree_withinChain (agree_lowerAll verbose more h) hst
  rw [step, step]
  cases site.offence? with
  | some e => exact ⟨rfl, hst⟩
  | none =>
      obtain ⟨e, after, after', hx, hy, hafter⟩ | ⟨results, after, after', hx, hy, hafter⟩ :=
        (hparts (agrees_enter verbose more site hst)).error_or_ok
      · simp only [hx, hy]
        exact ⟨rfl, hafter⟩
      · simp only [hx, hy, hst.nextId_eq, hst.chainActive_eq, hafter.nextId_eq]
        exact ⟨rfl, hafter.advance _⟩

/-! ### All sites -/

/-- **The log has no influence**: whatever was logged before, and whether more is logged or not, a
site is lowered to the same, and the counter and the flag are the same afterwards. -/
theorem agree_lower (site : Site) {s t : State} (h : s.Agrees t) :
    Agree (site.lower verbose s) (site.lower more t) := by
  induction site using Site.induction generalizing s t with
  | h site ih =>
      rw [lower_eq_step, lower_eq_step]
      exact agree_step verbose more (fun part hpart {s t} => @ih part hpart s t) h

end Site

/-- A program has the same document, or fails in the same way, whether more is logged or not. -/
theorem lowerProgram_verbose (verbose more : Bool) (decls : List Node) :
    (lowerProgram verbose decls).1 = (lowerProgram more decls).1 :=
  (Site.agree_lower verbose more (.unit decls) (State.Agrees.refl {})).1

end TeachingTree.Lowering

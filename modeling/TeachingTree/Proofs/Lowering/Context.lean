/-
**What a lowering leaves of the state it started from.**

While a chain of stream operators is lowered the chain flag is set, and a chain may hold any
expression, other chains among them; a lowering may also stop at any depth.  Nevertheless the flag
is afterwards what it was before, since only the operator that found it clear clears it.  The
counter of numbers only grows.

* `State.Keeps` — the flag is as it was, and the counter is not smaller;
* `Site.keeps_step` — one site keeps the state if its parts do;
* `Site.keeps_lower` — **every lowering keeps the state**, however it ends;
* `Site.nextId_le_of_lower`, `Site.nextId_le_of_lowerAll` — what that means for successes;
* `keeps_of_lowering` — the same of the four roles in which a source tree is lowered.
-/

import TeachingTree.Proofs.Lowering.Step

set_option relaxedAutoImplicit false
set_option autoImplicit false

namespace TeachingTree.Lowering

/-! ### States that keep another -/

/-- `s.Keeps after`: the chain flag of `after` is that of `s`, and its counter is not smaller. -/
structure State.Keeps (s after : State) : Prop where
  chainActive_eq : after.chainActive = s.chainActive
  nextId_le : s.nextId ≤ after.nextId

namespace State

theorem Keeps.refl (s : State) : s.Keeps s := ⟨rfl, Int.le_refl _⟩

theorem Keeps.trans {s₁ s₂ s₃ : State} (h : s₁.Keeps s₂) (h' : s₂.Keeps s₃) : s₁.Keeps s₃ :=
  ⟨h'.chainActive_eq.trans h.chainActive_eq, Int.le_trans h.nextId_le h'.nextId_le⟩

theorem keeps_advance (s : State) (takes : Bool) : s.Keeps (s.advance takes) := by
  cases takes with
  | false => exact Keeps.refl s
  | true =>
      refine ⟨rfl, ?_⟩
      simp only [advance, if_true]
      omega

end State

/-- What keeps the state inside a chain keeps it around the chain too. -/
theorem keeps_withinChain {α : Type} {x : Lower α} (h : ∀ s : State, s.Keeps (x s).2) (s : State) :
    s.Keeps (Lower.withinChain x s).2 := by
  have hinside := h { s with chainActive := true }
  rw [Lower.withinChain_apply]
  cases hs : s.chainActive with
  | true => exact ⟨hinside.chainActive_eq.trans hs.symm, hinside.nextId_le⟩
  | false => exact ⟨hs.symm, hinside.nextId_le⟩

namespace Site

variable (verbose : Bool)

/-! ### One site -/

theorem keeps_enter (site : Site) (s : State) : s.Keeps (site.enter verbose s) := by
  have h := State.keeps_advance s site.numbersFirst
  exact ⟨h.chainActive_eq, h.nextId_le⟩

theorem keeps_lowerAll {sites : List Site}
    (h : ∀ site ∈ sites, ∀ s : State, s.Keeps (site.lower verbose s).2) (s : State) :
    s.Keeps (lowerAll verbose sites s).2 := by
  induction sites generalizing s with
  | nil => exact State.Keeps.refl s
  | cons site sites ih =>
      have hsite := h site (List.mem_cons_self ..) s
      have hsites := ih fun other hother => h other (List.mem_cons_of_mem _ hother)
      rw [lowerAll_cons_apply]
      rcases hr : site.lower verbose s with ⟨e | r, after⟩
      · rwa [hr] at hsite
      · rw [hr] at hsite
        have hafter := hsites after
        simp only
        rcases hrs : lowerAll verbose sites after with ⟨e | rs, last⟩ <;> rw [hrs] at hafter <;>
          exact hsite.trans hafter

/-- One step: a site keeps the state if its parts do. -/
theorem keeps_step {site : Site}
    (h : ∀ part ∈ site.parts, ∀ s : State, s.Keeps (part.lower verbose s).2) (s : State) :
    s.Keeps (site.step verbose s).2 := by
  have hparts : ∀ s : State, s.Keeps (site.lowerParts verbose s).2 := by
    intro s
    cases hchain : site.isChain with
    | false =>
        rw [lowerParts_of_not_isChain hchain]
        exact keeps_lowerAll verbose h s
    | true =>
        rw [lowerParts_of_isChain hchain]
        exact keeps_withinChain (keeps_lowerAll verbose h) s
  have hrun := (keeps_enter verbose site s).trans (hparts (site.enter verbose s))
  rw [step]
  cases site.offence? with
  | some e => exact State.Keeps.refl s
  | none =>
      rcases hr : site.lowerParts verbose (site.enter verbose s) with ⟨e | results, after⟩
      · rwa [hr] at hrun
      · rw [hr] at hrun
        exact hrun.trans (State.keeps_advance after _)

/-! ### All sites -/

/-- **Every lowering keeps the state**, however it ends. -/
theorem keeps_lower (site : Site) (s : State) : s.Keeps (site.lower verbose s).2 := by
  induction site using Site.induction generalizing s with
  | h site ih =>
      rw [lower_eq_step]
      exact keeps_step verbose (fun part hpart s => ih part hpart s) s

variable {verbose : Bool}

/-- The counter does not fall while a site is lowered. -/
theorem nextId_le_of_lower {site : Site} {s last : State} {r : Schema}
    (h : site.lower verbose s = (.ok r, last)) : s.nextId ≤ last.nextId := by
  have hkeeps := keeps_lower verbose site s
  rw [h] at hkeeps
  exact hkeeps.nextId_le

/-- The counter does not fall while sites are lowered in order. -/
theorem nextId_le_of_lowerAll {sites : List Site} {s last : State} {results : List Schema}
    (h : lowerAll verbose sites s = (.ok results, last)) : s.nextId ≤ last.nextId := by
  have hkeeps := keeps_lowerAll verbose
    (fun site (_ : site ∈ sites) => keeps_lower verbose site) s
  rw [h] at hkeeps
  exact hkeeps.nextId_le

end Site

/-- **The chain flag and the counter after a lowering.**  Whatever is lowered, as an expression, a
statement, a declaration or a program, from whatever state, and whether it succeeds or stops: the
chain flag is afterwards what it was before, and the counter is not smaller. -/
theorem keeps_of_lowering (verbose : Bool) (node : Node) (decls : List Node) (s : State) :
    s.Keeps (lowerExpr node s).2 ∧ s.Keeps (lowerStmt verbose node s).2 ∧
      s.Keeps (lowerDecl verbose node s).2 ∧ s.Keeps (lowerUnit verbose decls s).2 :=
  ⟨Site.keeps_lower verbose (.expr node) s, Site.keeps_lower verbose (.stmt node) s,
    Site.keeps_lower verbose (.decl node) s, Site.keeps_lower verbose (.unit decls) s⟩

end TeachingTree.Lowering

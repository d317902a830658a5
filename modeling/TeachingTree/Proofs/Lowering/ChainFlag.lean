/-
**What the chain flag does to results.**

The flag is set while the parts of an operator of a chain are lowered, and it reaches everything
below them.  This module says what depends on it.  A result is a group in two cases only: the site
is a statement that lists others, or an operator of a chain that was met with the flag set.  And
where no operator of a chain is live, the flag has no influence at all.

Main definitions:

* `Node.listsOthers` — the statements that stand for several nodes in a row;
* `Site.becomesGroup` — the sites whose results are groups;
* `State.withFlag` — a state with the flag set or clear.

Main results:

* `Site.rel_of_lower_inChain` — a relation that is inherited from the parts, along with the flag,
  holds of every success;
* `Site.isGroup_of_lower` — **exactly which results are groups**;
* `Site.lower_withFlag` — **a lowering in which no chain is live does not depend on the flag**.
-/

import TeachingTree.Proofs.Lowering.Context
import TeachingTree.Proofs.Lowering.Results

set_option relaxedAutoImplicit false
set_option autoImplicit false

namespace TeachingTree

/-- Whether a statement stands for several nodes in a row, whatever it holds. -/
def Node.listsOthers : Node → Bool
  | .compound .. => true
  | .declStmt decls _ => decls.length ≠ 1
  | _ => false

namespace Lowering

/-- The state with the chain flag set or clear. -/
def State.withFlag (s : State) (inChain : Bool) : State := { s with chainActive := inChain }

@[simp] theorem State.withFlag_nextId (s : State) (inChain : Bool) :
    (s.withFlag inChain).nextId = s.nextId := rfl

@[simp] theorem State.withFlag_chainActive (s : State) (inChain : Bool) :
    (s.withFlag inChain).chainActive = inChain := rfl

theorem State.advance_withFlag (s : State) (takes inChain : Bool) :
    (s.withFlag inChain).advance takes = (s.advance takes).withFlag inChain := by
  cases takes <;> rfl

namespace Site

variable {verbose : Bool}

/-! ### The flag in the parts of a site -/

/-- What relates single sites to their results relates lists of sites to theirs; the flag is the
same for all of them. -/
theorem forall₂_lowerAll_inChain {inChain : Bool} {R : Site → Schema → Prop} {sites : List Site}
    (h : ∀ site ∈ sites, ∀ {s last : State} {r : Schema}, s.chainActive = inChain →
      site.lower verbose s = (.ok r, last) → R site r)
    {s last : State} {results : List Schema} (hs : s.chainActive = inChain)
    (hrun : lowerAll verbose sites s = (.ok results, last)) : List.Forall₂ R sites results := by
  induction sites generalizing s results with
  | nil =>
      simp only [lowerAll_nil_apply, Lower.outcome_eq_iff, Except.ok.injEq] at hrun
      rw [← hrun.1]
      exact .nil
  | cons site sites ih =>
      obtain ⟨r, rs, after, hr, hrs, rfl⟩ := lowerAll_cons_eq_ok_iff.1 hrun
      have hafter : after.chainActive = inChain := by
        have hkeeps := (keeps_lower verbose site s).chainActive_eq
        rwa [hr, hs] at hkeeps
      exact .cons (h site (List.mem_cons_self ..) hs hr)
        (ih (fun other hother => h other (List.mem_cons_of_mem _ hother)) hafter hrs)

theorem enter_chainActive (site : Site) (s : State) :
    (site.enter verbose s).chainActive = s.chainActive := by
  cases h : site.numbersFirst <;> simp [enter, State.advance, h]

/-- **A relation that is inherited from the parts, along with the flag, holds of every success.** -/
theorem rel_of_lower_inChain {R : Bool → Site → Schema → Prop}
    (h : ∀ site inChain id results,
      List.Forall₂ (R (inChain || site.isChain)) site.parts results →
        R inChain site (site.result inChain id results))
    {site : Site} {s last : State} {r : Schema} (hrun : site.lower verbose s = (.ok r, last)) :
    R s.chainActive site r := by
  induction site using Site.induction generalizing s last r with
  | h site ih =>
      obtain ⟨-, results, after, hparts, rfl, -⟩ := lower_eq_ok_iff.1 hrun
      obtain ⟨start, end_, -, -, hstart, hall⟩ := exists_lowerAll_of_lowerParts hparts
      rw [enter_chainActive] at hstart
      refine h site _ _ results (forall₂_lowerAll_inChain ?_ hstart hall)
      intro part hpart s last r hs hr
      rw [← hs]
      exact ih part hpart hr

/-! ### Which results are groups -/

/-- Whether what a site is lowered to is a group. -/
def becomesGroup (inChain : Bool) : Site → Bool
  | .expr node => inChain && (expr node).isChain
  | .stmt node => node.listsOthers || (inChain && (expr node).isChain)
  | _ => false

section Result

variable {inChain : Bool} {id : Int} {results : List Schema}

theorem isGroup_exprResult (node : Node) :
    (exprResult inChain id results node).isGroup = (expr node).becomesGroup inChain := by
  cases node with
  | reference name declared position =>
      simp only [exprResult, becomesGroup, isChain, Bool.and_false]
      split
      · rfl
      · split <;> rfl
      · rfl
  | binary opcode lhs rhs position =>
      simp only [exprResult, becomesGroup, isChain, Bool.and_false]
      split <;> rfl
  | operatorCall operator args position =>
      simp only [exprResult, becomesGroup, isChain]
      cases operatorUse operator args.length <;> cases inChain <;> rfl
  | call callee args position =>
      cases callee <;> simp [exprResult, becomesGroup, isChain, Schema.isGroup]
  | _ => simp [exprResult, becomesGroup, isChain, Schema.isGroup]

/-- Whether the result of a site is a group follows from the same of its parts. -/
theorem isGroup_stmtResult {node : Node}
    (h : List.Forall₂ (fun part r => r.isGroup = part.becomesGroup inChain) (stmtParts node)
      results) :
    (stmtResult id results node).isGroup = (stmt node).becomesGroup inChain := by
  cases node with
  | declStmt decls position =>
      -- a declaration alone stands for itself, and no declaration becomes a group
      rcases decls with _ | ⟨d, _ | ⟨d', ds⟩⟩
      · simp [stmtResult, becomesGroup, Node.listsOthers, Schema.isGroup]
      · rcases h with _ | ⟨hd, _ | _⟩
        simpa [stmtResult, becomesGroup, Node.listsOthers, isChain] using hd
      · simp [stmtResult, becomesGroup, Node.listsOthers, Schema.isGroup]
  | doStmt | breakStmt | continueStmt | gotoStmt | labelStmt | unsupportedStmt | absent | compound
  | ifStmt | whileStmt | forStmt | returnStmt | nullStmt =>
      simp [stmtResult, rejected?, becomesGroup, Node.listsOthers, isChain, Schema.isGroup]
  | _ =>
      rcases h with _ | ⟨hx, _ | _⟩
      simpa [stmtResult, rejected?, becomesGroup, Node.listsOthers] using hx

theorem isGroup_declResult {node : Node}
    (h : List.Forall₂ (fun part r => r.isGroup = part.becomesGroup inChain) (declParts node)
      results) : (declResult id results node).isGroup = false := by
  cases node with
  | var v =>
      rcases h with _ | ⟨hv, _ | _⟩
      exact hv
  | field f =>
      rcases h with _ | ⟨hf, _ | _⟩
      exact hf
  | record name members isImplicit position => cases isImplicit <;> rfl
  | _ => rfl

theorem isGroup_result {site : Site}
    (h : List.Forall₂ (fun part r => r.isGroup = part.becomesGroup (inChain || site.isChain))
      site.parts results) :
    (site.result inChain id results).isGroup = site.becomesGroup inChain := by
  cases site with
  | expr node => exact isGroup_exprResult node
  | stmt node => exact isGroup_stmtResult (by simpa [isChain, parts] using h)
  | decl node => exact isGroup_declResult (by simpa [isChain, parts] using h)
  | member recordName node =>
      cases node with
      | field f =>
          rcases h with _ | ⟨hf, _ | _⟩
          exact hf
      | _ =>
          rcases h with _ | _
          rfl
  | loopInit init position =>
      simp only [result, loopInitResult]
      split
      · rfl
      · rename_i hgroup
        simpa [becomesGroup] using hgroup
  | type name depth => cases depth <;> rfl
  | _ => rfl

end Result

/-- **Exactly which results are groups**: statements that list others, and operators of chains that
are met with the flag set. -/
theorem isGroup_of_lower {site : Site} {s last : State} {r : Schema}
    (h : site.lower verbose s = (.ok r, last)) : r.isGroup = site.becomesGroup s.chainActive :=
  rel_of_lower_inChain (R := fun inChain site r => r.isGroup = site.becomesGroup inChain)
    (fun _ _ _ _ hparts => isGroup_result hparts) h

/-! ### Sites without chains -/

section NoChain

variable {site : Site}

/-- What a site makes of the results of its parts depends on the flag only if it is an operator of
a chain. -/
theorem result_of_not_isChain (h : site.isChain = false) (b inChain : Bool) (id : Int)
    (results : List Schema) : site.result b id results = site.result inChain id results := by
  cases site with
  | expr node =>
      cases node with
      | operatorCall operator args position =>
          simp only [isChain] at h
          simp only [result, exprResult]
          cases huse : operatorUse operator args.length <;> simp_all [OperatorUse.isChain]
      | call callee args position => cases callee <;> rfl
      | _ => rfl
  | type name depth => cases depth <;> rfl
  | _ => rfl

theorem numbersLast_of_not_isChain (h : site.isChain = false) (b inChain : Bool)
    (results : List Schema) : site.numbersLast b results = site.numbersLast inChain results := by
  cases site with
  | expr node =>
      cases node with
      | operatorCall operator args position =>
          simp only [isChain] at h
          simp only [numbersLast, exprNumbersLast]
          cases huse : operatorUse operator args.length <;> simp_all [OperatorUse.isChain]
      | call callee args position => cases callee <;> rfl
      | _ => rfl
  | _ => rfl

theorem enter_withFlag (site : Site) (s : State) (inChain : Bool) :
    site.enter verbose (s.withFlag inChain) = (site.enter verbose s).withFlag inChain := by
  cases h : site.numbersFirst <;> simp [enter, State.advance, State.withFlag, h]

theorem lowerAll_withFlag {sites : List Site} {inChain : Bool}
    (h : ∀ site ∈ sites, ∀ s : State, site.lower verbose (s.withFlag inChain) =
      ((site.lower verbose s).1, (site.lower verbose s).2.withFlag inChain)) (s : State) :
    lowerAll verbose sites (s.withFlag inChain) =
      ((lowerAll verbose sites s).1, (lowerAll verbose sites s).2.withFlag inChain) := by
  induction sites generalizing s with
  | nil => rfl
  | cons site sites ih =>
      have hsites := ih fun other hother => h other (List.mem_cons_of_mem _ hother)
      rw [lowerAll_cons_apply, lowerAll_cons_apply, h site (List.mem_cons_self ..) s]
      rcases site.lower verbose s with ⟨e | r, after⟩
      · rfl
      · simp only [hsites after]
        rcases lowerAll verbose sites after with ⟨e | rs, last⟩ <;> rfl

/-- **A lowering in which no chain is live does not depend on the flag.** -/
theorem lower_withFlag (h : ∀ other ∈ site.live, other.isChain = false) (inChain : Bool)
    (s : State) :
    site.lower verbose (s.withFlag inChain) =
      ((site.lower verbose s).1, (site.lower verbose s).2.withFlag inChain) := by
  induction site using Site.induction generalizing s with
  | h site ih =>
      have hsite := h site (mem_live_self site)
      have hparts : ∀ s : State, lowerAll verbose site.parts (s.withFlag inChain) =
          ((lowerAll verbose site.parts s).1, (lowerAll verbose site.parts s).2.withFlag inChain) :=
        lowerAll_withFlag fun part hpart =>
          ih part hpart fun other hother => h other (mem_live_of_mem_parts hpart hother)
      rw [lower_eq_step, lower_eq_step, step, step]
      cases site.offence? with
      | some e => rfl
      | none =>
          simp only [lowerParts_of_not_isChain hsite, enter_withFlag, hparts]
          rcases lowerAll verbose site.parts (site.enter verbose s) with ⟨e | results, after⟩
          · rfl
          · simp only [State.withFlag_nextId, State.withFlag_chainActive, State.advance_withFlag,
              result_of_not_isChain hsite inChain s.chainActive,
              numbersLast_of_not_isChain hsite inChain s.chainActive]

end NoChain

end Site

end Lowering

end TeachingTree

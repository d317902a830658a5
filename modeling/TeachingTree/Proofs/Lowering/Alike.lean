/-
**Sites that are lowered alike.**

Two sites are lowered alike if from every state they have the same outcome: the same result or the
same failure, and the same state afterwards, the log included.  Since the lowering of a site is an
instance of the scheme, two sites of which the scheme says the same are lowered alike if their parts
are, one by one.  Statements about the influence of a change to a source tree are proved with it.

Main definitions:

* `Site.Alike` — sites that are lowered alike;
* `Site.SameScheme` — sites with the same entries in the tables of the scheme.

Main results:

* `Site.alike_of_parts` — **sites with the same scheme are lowered alike if their parts are**;
* `Site.sameScheme_shell` — the scheme of a node is that of its shell, in any role;
* `Site.alike_map` — a change of sites that goes through to the parts has no influence.
-/

import TeachingTree.Proofs.Lowering.Step
import TeachingTree.Proofs.Source.Frame
import Mathlib.Data.List.Forall2

set_option relaxedAutoImplicit false
set_option autoImplicit false

namespace TeachingTree.Lowering.Site

variable {verbose : Bool}

/-! ### Outcomes of sites -/

/-- Sites that have the same outcome from every state. -/
def Alike (verbose : Bool) (site other : Site) : Prop :=
  ∀ s : State, site.lower verbose s = other.lower verbose s

theorem Alike.refl (site : Site) : Alike verbose site site := fun _ => rfl

theorem Alike.symm {site other : Site} (h : Alike verbose site other) :
    Alike verbose other site := fun s => (h s).symm

theorem Alike.trans {site other third : Site} (h : Alike verbose site other)
    (h' : Alike verbose other third) : Alike verbose site third := fun s => (h s).trans (h' s)

theorem forall₂_alike_refl (sites : List Site) : List.Forall₂ (Alike verbose) sites sites :=
  List.forall₂_same.2 fun site _ => Alike.refl site

/-- Sites that are lowered alike one by one are lowered alike in order. -/
theorem lowerAll_congr {sites others : List Site}
    (h : List.Forall₂ (Alike verbose) sites others) (s : State) :
    lowerAll verbose sites s = lowerAll verbose others s := by
  induction h generalizing s with
  | nil => rfl
  | cons hsite _ ih =>
      rw [lowerAll_cons_apply, lowerAll_cons_apply, hsite s]
      simp only [ih]

/-! ### The scheme of sites -/

/-- Sites of which the scheme says the same, their parts aside. -/
structure SameScheme (verbose : Bool) (site other : Site) : Prop where
  offence?_eq : site.offence? = other.offence?
  isChain_eq : site.isChain = other.isChain
  notes_eq : site.notes verbose = other.notes verbose
  numbersFirst_eq : site.numbersFirst = other.numbersFirst
  numbersLast_eq : ∀ inChain results,
    site.numbersLast inChain results = other.numbersLast inChain results
  result_eq : ∀ inChain id results,
    site.result inChain id results = other.result inChain id results

theorem SameScheme.refl (site : Site) : SameScheme verbose site site :=
  ⟨rfl, rfl, rfl, rfl, fun _ _ => rfl, fun _ _ _ => rfl⟩

theorem SameScheme.symm {site other : Site} (h : SameScheme verbose site other) :
    SameScheme verbose other site where
  offence?_eq := h.offence?_eq.symm
  isChain_eq := h.isChain_eq.symm
  notes_eq := h.notes_eq.symm
  numbersFirst_eq := h.numbersFirst_eq.symm
  numbersLast_eq inChain results := (h.numbersLast_eq inChain results).symm
  result_eq inChain id results := (h.result_eq inChain id results).symm

theorem SameScheme.trans {site other third : Site} (h : SameScheme verbose site other)
    (h' : SameScheme verbose other third) : SameScheme verbose site third where
  offence?_eq := h.offence?_eq.trans h'.offence?_eq
  isChain_eq := h.isChain_eq.trans h'.isChain_eq
  notes_eq := h.notes_eq.trans h'.notes_eq
  numbersFirst_eq := h.numbersFirst_eq.trans h'.numbersFirst_eq
  numbersLast_eq inChain results :=
    (h.numbersLast_eq inChain results).trans (h'.numbersLast_eq inChain results)
  result_eq inChain id results :=
    (h.result_eq inChain id results).trans (h'.result_eq inChain id results)

/-- **Sites with the same scheme are lowered alike if their parts are.** -/
theorem alike_of_parts {site other : Site} (hscheme : SameScheme verbose site other)
    (hparts : List.Forall₂ (Alike verbose) site.parts other.parts) :
    Alike verbose site other := by
  intro s
  have henter : site.enter verbose s = other.enter verbose s := by
    rw [enter, enter, hscheme.numbersFirst_eq, hscheme.notes_eq]
  have hlowerParts : site.lowerParts verbose = other.lowerParts verbose := by
    rw [lowerParts, lowerParts, hscheme.isChain_eq, funext (lowerAll_congr hparts)]
  simp only [lower_eq_step, step, hscheme.offence?_eq, henter, hlowerParts,
    hscheme.numbersFirst_eq, hscheme.result_eq, hscheme.numbersLast_eq]

/-! ### What is below a node -/

/-- The scheme of a node in any role does not tell what is below the node. -/
theorem sameScheme_shell (node : Node) :
    SameScheme verbose (expr node.shell) (expr node) ∧
      SameScheme verbose (stmt node.shell) (stmt node) ∧
      SameScheme verbose (decl node.shell) (decl node) ∧
      ∀ recordName, SameScheme verbose (member recordName node.shell) (member recordName node) := by
  cases node with
  | operatorCall operator args position =>
      refine ⟨⟨rfl, ?_, ?_, rfl, fun inChain results => ?_, fun inChain id results => ?_⟩,
          ⟨rfl, rfl, rfl, rfl, fun _ _ => rfl, fun _ _ _ => rfl⟩,
          ⟨rfl, rfl, rfl, rfl, fun _ _ => rfl, fun _ _ _ => rfl⟩,
          fun _ => ⟨rfl, rfl, rfl, rfl, fun _ _ => rfl, fun _ _ _ => rfl⟩⟩ <;>
        simp only [Node.shell, isChain, notes, numbersLast, exprNumbersLast, result, exprResult,
          List.length_map]
  | call callee args position =>
      refine ⟨?_, ?_, ?_, fun _ => ?_⟩ <;> cases callee <;>
        exact ⟨rfl, rfl, rfl, rfl, fun _ _ => rfl, fun _ _ _ => rfl⟩
  | declStmt decls position =>
      refine ⟨?_, ?_, ?_, fun _ => ?_⟩ <;> rcases decls with _ | ⟨d, _ | ⟨d', ds⟩⟩ <;>
        exact ⟨rfl, rfl, rfl, rfl, fun _ _ => rfl, fun _ _ _ => rfl⟩
  | var v =>
      cases v
      refine ⟨?_, ?_, ?_, fun _ => ?_⟩ <;>
        exact ⟨rfl, rfl, rfl, rfl, fun _ _ => rfl, fun _ _ _ => rfl⟩
  | _ =>
      refine ⟨?_, ?_, ?_, fun _ => ?_⟩ <;>
        exact ⟨rfl, rfl, rfl, rfl, fun _ _ => rfl, fun _ _ _ => rfl⟩

section Shell

variable {node other : Node} (h : node.shell = other.shell)
include h

theorem sameScheme_expr_of_shell : SameScheme verbose (expr node) (expr other) :=
  (sameScheme_shell node).1.symm.trans (h ▸ (sameScheme_shell other).1)

theorem sameScheme_stmt_of_shell : SameScheme verbose (stmt node) (stmt other) :=
  (sameScheme_shell node).2.1.symm.trans (h ▸ (sameScheme_shell other).2.1)

theorem sameScheme_decl_of_shell : SameScheme verbose (decl node) (decl other) :=
  (sameScheme_shell node).2.2.1.symm.trans (h ▸ (sameScheme_shell other).2.2.1)

theorem sameScheme_member_of_shell (recordName : String) :
    SameScheme verbose (member recordName node) (member recordName other) :=
  ((sameScheme_shell node).2.2.2 recordName).symm.trans
    (h ▸ (sameScheme_shell other).2.2.2 recordName)

end Shell

/-! ### Changes of sites -/

/-- **A change of sites that goes through to the parts has no influence**, if at every site it
leaves the scheme as it is, or has no influence there for another reason. -/
theorem alike_map {f : Site → Site}
    (h : ∀ site, Alike verbose (f site) site ∨
      SameScheme verbose (f site) site ∧ (f site).parts = site.parts.map f) (site : Site) :
    Alike verbose (f site) site := by
  induction site using Site.induction with
  | h site ih =>
      obtain halike | ⟨hscheme, hparts⟩ := h site
      · exact halike
      · refine alike_of_parts hscheme ?_
        rw [hparts, List.forall₂_map_left_iff]
        exact List.forall₂_same.2 ih

end TeachingTree.Lowering.Site

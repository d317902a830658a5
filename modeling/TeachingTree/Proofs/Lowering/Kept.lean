/-
**What stays of the parts of a site.**

Not everything that is lowered is part of the result: the stream of a chain, the type of a field
that is looked up, and what a group in the place of the first clause of a loop header holds, are
left out.  And of a method call the receiver comes first in the result, though it is lowered last.
This module says which parts stay and in which order, and that the nodes of a result are, in order,
the node that the site makes and the nodes of the parts that stay.

What is picked from the nodes of a result can therefore be read off the source tree: from the site
itself, and then from the parts that stay.

Main definitions:

* `Site.kept` — the parts that stay, in the order in which they are written;
* `Site.pick` — what the sites that stay contribute, in order;
* `Site.made?` — the node that a site makes, unless it hands one on.

Main results:

* `Site.pick_result` — the nodes of a result, given those of the parts;
* `Site.pick_of_lower` — **what is picked from a result is what is picked from its site**.
-/

import TeachingTree.Proofs.Lowering.ChainFlag
import TeachingTree.Proofs.Schema.Nodes

set_option relaxedAutoImplicit false
set_option autoImplicit false

namespace TeachingTree.Lowering

namespace Site

/-! ### The parts that stay -/

/-- The operands of a chain that stay: the stream is left out, unless it is a chain itself. -/
def keptOperands : List Node → List Site
  | [] => []
  | stream :: operands =>
    (if (expr stream).isChain then [.expr stream] else []) ++ operands.map .expr

/-- The parts of a site that stay, in the order in which they are written. -/
def kept : Site → List Site
  | .expr (.operatorCall operator args position) =>
    if (operatorUse operator args.length).isChain then keptOperands args
    else (expr (.operatorCall operator args position)).parts
  | .expr (.methodCall method receiver args position) =>
    [.expr receiver, .methodCall method args position]
  | .loopInit init _ => if init.listsOthers then [] else [.stmt init]
  | .key _ => []
  | site => site.parts

theorem keptOperands_subset (args : List Node) : keptOperands args ⊆ args.map .expr := by
  cases args with
  | nil => exact List.Subset.refl _
  | cons stream operands =>
      simp only [keptOperands]
      split <;> simp

/-- What stays is a part. -/
theorem kept_subset (site : Site) : site.kept ⊆ site.parts := by
  cases site with
  | expr node =>
      cases node with
      | operatorCall operator args position =>
          simp only [kept]
          split
          · rename_i hchain
            have hlowers : (operatorUse operator args.length).lowersOperands = true := by
              cases huse : operatorUse operator args.length <;>
                simp_all [OperatorUse.isChain, OperatorUse.lowersOperands]
            simp only [parts, exprParts, hlowers, if_true]
            exact keptOperands_subset args
          · exact List.Subset.refl _
      | methodCall method receiver args position => simp [kept, parts, exprParts]
      | _ => exact List.Subset.refl _
  | loopInit init position =>
      simp only [kept]
      split
      · simp
      · exact List.Subset.refl _
  | key f => simp [kept]
  | _ => exact List.Subset.refl _

theorem weight_lt_of_mem_kept {site part : Site} (h : part ∈ site.kept) :
    part.weight < site.weight :=
  weight_lt_of_mem_parts (kept_subset site h)

/-! ### Picking from sites -/

section Pick

variable {α : Type}

/-- **What the sites that stay contribute**, in order: the site itself, and then those parts of it
that stay. -/
def pick (own : Bool → Site → Option α) (inChain : Bool) (site : Site) : List α :=
  (own inChain site).toList ++
    site.kept.attach.flatMap fun part => pick own (inChain || site.isChain) part.1
termination_by site.weight
decreasing_by exact weight_lt_of_mem_kept part.2

theorem pick_eq (own : Bool → Site → Option α) (inChain : Bool) (site : Site) :
    site.pick own inChain =
      (own inChain site).toList ++ site.kept.flatMap (pick own (inChain || site.isChain)) := by
  rw [pick, List.flatMap_subtype (g := pick own (inChain || site.isChain)) fun _ _ => rfl,
    List.unattach_attach]

end Pick

/-! ### The nodes of a result -/

/-- Whether a site is an expression or belongs to one. -/
def inExpression : Site → Bool
  | .expr _ => true
  | .key _ => true
  | .methodCall .. => true
  | .type .. => true
  | _ => false

/-- The node that a site makes, unless it hands on that of a part. -/
def made? (inChain : Bool) (id : Int) (results : List Schema) (site : Site) : Option Schema :=
  if site.numbersFirst || site.numbersLast inChain results then
    some (site.result inChain id results)
  else none

/-- The first clause of a loop header makes a message in the place of a group, and hands on anything
else. -/
theorem made?_loopInit (inChain : Bool) (id : Int) (results : List Schema) (init : Node)
    (position : Position) :
    (loopInit init position).made? inChain id results =
      if (results.headD .absent).isGroup then
        some (.message id position "error" "compoundStmt"
          "Compound Statements are not allowed in for loop init")
      else none := by
  rcases results with _ | ⟨r, rest⟩
  · rfl
  · cases hr : r.isGroup <;>
      simp [made?, numbersFirst, numbersLast, result, loopInitResult, hr]

section Result

variable {α : Type} (f : Schema → Option α) {g : Site → List α} {inChain : Bool} (id : Int)
  {results : List Schema}

theorem pickAll_of_forall₂ {sites : List Site}
    (h : List.Forall₂ (fun part r => Schema.pick f r = g part) sites results) :
    Schema.pickAll f results = sites.flatMap g := by
  induction h with
  | nil => rfl
  | cons hr _ ih => rw [Schema.pickAll, hr, ih, List.flatMap_cons]

theorem pickAll_spliceAll {sites : List Site}
    (h : List.Forall₂ (fun part r => Schema.pick f r = g part) sites results) :
    Schema.pickAll f (spliceAll results) = sites.flatMap g := by
  rw [spliceAll, Schema.pickAll_flatMap_splice, pickAll_of_forall₂ f h]

/-- The stream of a chain contributes if it is a chain itself, and then all it holds. -/
theorem pickAll_chainItems {args : List Node}
    (hgroup : List.Forall₂ (fun part r => r.isGroup = part.becomesGroup true)
      (args.map Site.expr) results)
    (h : List.Forall₂ (fun part r => Schema.pick f r = g part) (args.map Site.expr) results) :
    Schema.pickAll f (chainItems results) = (keptOperands args).flatMap g := by
  cases args with
  | nil =>
      rcases h with _ | _
      rfl
  | cons stream operands =>
      rcases hgroup with _ | ⟨hstream, -⟩
      rcases h with _ | ⟨hr, hrest⟩
      rename_i r results
      rw [chainItems, Schema.pickAll_append, pickAll_spliceAll f hrest, keptOperands,
        List.flatMap_append]
      congr 1
      simp only [becomesGroup, Bool.true_and] at hstream
      rw [Schema.pickAll_groupItems, hstream, hr]
      split <;> simp

section Tables

-- the tables of the scheme, which in this section stand for single sites only
attribute [local simp] Schema.pick Schema.pickAll parts exprParts kept made? result exprResult
  numbersFirst numbersLast exprNumbersLast isChain commaMessage OperatorUse.isChain
  OperatorUse.lowersOperands

theorem pick_exprResult {node : Node}
    (hgroup : List.Forall₂
      (fun part r => r.isGroup = part.becomesGroup (inChain || (expr node).isChain))
      (exprParts node) results)
    (h : List.Forall₂ (fun part r => Schema.pick f r = g part) (exprParts node) results) :
    (exprResult inChain id results node).pick f =
      (((expr node).made? inChain id results).bind f).toList ++ (expr node).kept.flatMap g := by
  cases node with
  | reference name declared position =>
      cases hkind : declared.kind <;> simp [hkind]
      split <;> simp
  | unary opcode operand isLeading position =>
      rcases h with _ | ⟨hx, _ | _⟩
      simp [hx]
  | binary opcode lhs rhs position =>
      simp only [exprParts] at h
      split at h
      · simp_all
      · rcases h with _ | ⟨hl, _ | ⟨hr, _ | _⟩⟩
        simp_all
  | member base key position =>
      rcases h with _ | ⟨hb, _ | ⟨hk, _ | _⟩⟩
      simp [hb, hk]
  | subscript base index position =>
      rcases h with _ | ⟨hb, _ | ⟨hi, _ | _⟩⟩
      simp [hb, hi]
  | methodCall method receiver args position =>
      rcases h with _ | ⟨hc, _ | ⟨hx, _ | _⟩⟩
      simp [hc, hx]
  | call callee args position =>
      cases callee with
      | none => simp
      | some callee => simp [pickAll_spliceAll f h]
  | operatorCall operator args position =>
      simp only [exprParts] at h hgroup
      cases huse : operatorUse operator args.length with
      | chain callName =>
          simp only [huse, OperatorUse.lowersOperands, if_true, isChain, OperatorUse.isChain,
            Bool.or_true] at h hgroup
          have hitems := pickAll_chainItems f hgroup h
          cases inChain <;> simp [huse, hitems]
      | binary opcode =>
          simp only [huse, OperatorUse.lowersOperands, if_true] at h
          obtain ⟨lhs, rhs, rfl⟩ := exists_pair_of_operatorUse_binary huse
          rcases h with _ | ⟨hl, _ | ⟨hr, _ | _⟩⟩
          simp_all
      | comma => simp [huse]
      | other => simp [huse]
  | _ => simp

theorem pick_stmtResult {node : Node}
    (h : List.Forall₂ (fun part r => Schema.pick f r = g part) (stmtParts node) results) :
    (stmtResult id results node).pick f =
      (((stmt node).made? inChain id results).bind f).toList ++ (stmt node).kept.flatMap g := by
  cases node with
  | compound body position => simp [stmtResult, stmtParts, rejected?, pickAll_spliceAll f h]
  | ifStmt condition thenBranch elseBranch declared position =>
      simp only [stmtParts] at h
      split at h
      · rename_i helse
        rcases h with _ | ⟨hc, _ | ⟨ht, _ | _⟩⟩
        simp [stmtResult, stmtParts, helse, hc, ht]
      · rename_i helse
        rcases h with _ | ⟨hc, _ | ⟨ht, _ | ⟨he, _ | _⟩⟩⟩
        simp [stmtResult, stmtParts, helse, hc, ht, he]
  | whileStmt condition body declared position =>
      rcases h with _ | ⟨hc, _ | ⟨hb, _ | _⟩⟩
      simp [stmtResult, stmtParts, hc, hb]
  | forStmt init condition increment body position =>
      rcases h with _ | ⟨hi, _ | ⟨hc, _ | ⟨hp, _ | ⟨hb, _ | _⟩⟩⟩⟩
      simp [stmtResult, stmtParts, hi, hc, hp, hb]
  | returnStmt value position =>
      rcases h with _ | ⟨hx, _ | _⟩
      simp [stmtResult, stmtParts, hx]
  | declStmt decls position =>
      -- a declaration alone stands for itself, and only several of them are a group
      rcases decls with _ | ⟨d, _ | ⟨d', ds⟩⟩
      · simp [stmtResult, stmtParts, rejected?, pickAll_spliceAll f h]
      · rcases h with _ | ⟨hd, _ | _⟩
        simp [stmtResult, stmtParts, rejected?, hd]
      · simp [stmtResult, stmtParts, rejected?, pickAll_spliceAll f h]
  | absent | nullStmt | doStmt | breakStmt | continueStmt | gotoStmt | labelStmt
  | unsupportedStmt => simp [stmtResult, stmtParts, rejected?]
  | _ =>
      rcases h with _ | ⟨hx, _ | _⟩
      simp [stmtResult, stmtParts, rejected?, hx]

theorem pick_declResult {node : Node}
    (h : List.Forall₂ (fun part r => Schema.pick f r = g part) (declParts node) results) :
    (declResult id results node).pick f =
      (((decl node).made? inChain id results).bind f).toList ++ (decl node).kept.flatMap g := by
  cases node with
  | function name resultType params body isDefinition position =>
      simp only [declParts] at h
      obtain ⟨t, rest, ht, hrest, rfl⟩ := List.forall₂_cons_left_iff.1 h
      obtain ⟨ps, b, hps, hb, rfl⟩ := exists_of_forall₂_concat hrest
      simp [declResult_function, declParts, ht, hb, pickAll_of_forall₂ f hps]
  | var v =>
      rcases h with _ | ⟨hv, _ | _⟩
      simp [declResult, declParts, hv]
  | field key =>
      rcases h with _ | ⟨hf, _ | _⟩
      simp [declResult, declParts, hf]
  | record name members isImplicit position =>
      cases isImplicit with
      | true => simp [declResult, declParts]
      | false => simp [declResult, declParts, pickAll_spliceAll f h]
  | _ => simp [declResult, declParts]

/-- An initial value is no group, since variables are not declared inside chains. -/
theorem pick_varResult {v : Variable}
    (hgroup : List.Forall₂ (fun part r => r.isGroup = part.becomesGroup false) (var v).parts
      results)
    (h : List.Forall₂ (fun part r => Schema.pick f r = g part) (var v).parts results) :
    (varResult id results v.head).pick f =
      (((var v).made? false id results).bind f).toList ++ (var v).kept.flatMap g := by
  simp only [parts] at h hgroup
  cases hkeeps : keepsInit v.head with
  | false =>
      simp only [hkeeps, Bool.false_eq_true, if_false] at h
      rcases h with _ | ⟨ht, _ | _⟩
      simp [varResult, singleNode, Schema.isGroup, hkeeps, ht]
  | true =>
      simp only [hkeeps, if_true] at h hgroup
      rcases h with _ | ⟨ht, _ | ⟨hx, _ | _⟩⟩
      rcases hgroup with _ | ⟨-, _ | ⟨hinit, -⟩⟩
      simp only [becomesGroup, Bool.false_and] at hinit
      simp [varResult, singleNode, hkeeps, hinit, ht, hx]

/-- **The nodes of a result** are, in order, the node that the site makes and the nodes of the
parts that stay. -/
theorem pick_result {site : Site} (hflag : inChain = true → site.inExpression = true)
    (hgroup : List.Forall₂
      (fun part r => r.isGroup = part.becomesGroup (inChain || site.isChain)) site.parts results)
    (h : List.Forall₂ (fun part r => Schema.pick f r = g part) site.parts results) :
    (site.result inChain id results).pick f =
      ((site.made? inChain id results).bind f).toList ++ site.kept.flatMap g := by
  cases site with
  | expr node => exact pick_exprResult f id hgroup h
  | stmt node => exact pick_stmtResult f id h
  | decl node => exact pick_declResult f id h
  | unit decls => simp [pickAll_spliceAll f h]
  | var v =>
      obtain rfl : inChain = false := by simpa [inExpression] using hflag
      exact pick_varResult f id hgroup h
  | field key =>
      rcases h with _ | ⟨ht, _ | _⟩
      simp [ht]
  | key key => simp
  | member recordName node =>
      cases node with
      | field key =>
          rcases h with _ | ⟨hf, _ | _⟩
          simp [hf]
      | _ =>
          rcases h with _ | _
          simp
  | type name depth =>
      cases depth with
      | zero => simp
      | succ depth =>
          rcases h with _ | ⟨ht, _ | _⟩
          simp [ht]
  | block body =>
      rcases h with _ | ⟨hr, _ | _⟩
      simp [Schema.pickAll_splice, hr]
  | loopInit init position =>
      obtain rfl : inChain = false := by simpa [inExpression] using hflag
      rcases hgroup with _ | ⟨hr, _ | _⟩
      rcases h with _ | ⟨hx, _ | _⟩
      simp only [isChain, Bool.or_false, becomesGroup, Bool.false_and] at hr
      cases hlists : init.listsOthers <;> simp [loopInitResult, hr, hx, hlists]
  | conditionVariable construct v => simp
  | methodCall method args position => simp [pickAll_spliceAll f h]

end Tables

end Result

/-! ### All results -/

theorem inExpression_of_isChain {site : Site} (h : site.isChain = true) :
    site.inExpression = true := by
  cases site <;> first | rfl | simp [isChain] at h

/-- The parts of an expression belong to it. -/
theorem inExpression_of_mem_parts {site : Site} (h : site.inExpression = true) :
    ∀ part ∈ site.parts, part.inExpression = true := by
  cases site with
  | expr node =>
      cases node with
      | binary opcode lhs rhs position =>
          simp only [parts, exprParts]
          split <;> simp [inExpression]
      | operatorCall operator args position =>
          simp only [parts, exprParts]
          split <;> simp [inExpression]
      | call callee args position => cases callee <;> simp [parts, exprParts, inExpression]
      | _ => simp [parts, exprParts, inExpression]
  | key key => simp [parts, ofType, inExpression]
  | type name depth => cases depth <;> simp [parts, inExpression]
  | methodCall method args position => simp [parts, inExpression]
  | _ => simp [inExpression] at h

section Lower

variable {α : Type} {verbose : Bool} {f : Schema → Option α} {own : Bool → Site → Option α}

/-- **What is picked from a result is what is picked from its site**, if that is so of the nodes
that single sites make.  A site that belongs to no expression is met outside chains only. -/
theorem pick_of_lower
    (hown : ∀ inChain site id results, (inChain = true → site.inExpression = true) →
      List.Forall₂ (fun part r => r.isGroup = part.becomesGroup (inChain || site.isChain))
        site.parts results →
      (site.made? inChain id results).bind f = own inChain site)
    {site : Site} {s last : State} {r : Schema} (h : site.lower verbose s = (.ok r, last))
    (hflag : s.chainActive = true → site.inExpression = true) :
    r.pick f = site.pick own s.chainActive := by
  refine (rel_of_lower_inChain (R := fun inChain site r => r.isGroup = site.becomesGroup inChain ∧
    ((inChain = true → site.inExpression = true) → r.pick f = site.pick own inChain)) ?_ h).2 hflag
  intro site inChain id results hparts
  have hgroup := hparts.imp fun _ _ hpart => hpart.1
  refine ⟨isGroup_result hgroup, fun hflag => ?_⟩
  have hinside : (inChain || site.isChain) = true → site.inExpression = true := by
    intro h
    rcases Bool.or_eq_true_iff.1 h with h | h
    · exact hflag h
    · exact inExpression_of_isChain h
  have hpicked : List.Forall₂
      (fun part r => Schema.pick f r = pick own (inChain || site.isChain) part)
      site.parts results := by
    have hmem := (List.forall₂_and_left site.parts results).2 ⟨fun _ hpart => hpart, hparts⟩
    refine hmem.imp fun part r hpart => hpart.2.2 fun h => ?_
    exact inExpression_of_mem_parts (hinside h) part hpart.1
  rw [pick_result f id hflag hgroup hpicked, hown inChain site id results hflag hgroup, pick_eq]

end Lower

end Site

end TeachingTree.Lowering

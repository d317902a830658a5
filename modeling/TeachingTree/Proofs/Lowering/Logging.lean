/-
**What a lowering logs.**

A lowering logs a line at some of the sites that it comes to, and it comes to its live sites in
order, up to the first that has no rule.  Its log is therefore a function of the source tree: the
lines of the sites that it reaches, one after another, whether it succeeds in the end or not.

Two kinds of lines are told apart.  The *remarks* are logged always; they come from calls and
operators for which there is no rule.  The *asides* are logged by a verbose lowering only, one for
each declaration that is skipped and one for each member of a record that is no field.  They stand
where they arise, between the remarks, and change nothing else.

Main definitions:

* `Site.reached` — the sites that a lowering comes to;
* `Site.remarks`, `Site.asides` — the lines of a site.

Main results:

* `Site.log_step` — one site logs its own lines and then those of its parts;
* `Site.log_lower` — **the log is that of the sites that are reached, in order**, however a
  lowering ends;
* `Site.flatMap_reached` — the lines of members, counted at their record;
* `log_of_lowerProgram` — **verbosity adds asides to the log and changes nothing else**.
-/

import TeachingTree.Log
import TeachingTree.Proofs.Lowering.Failure
import TeachingTree.Proofs.Lowering.Verbosity
import Mathlib.Data.List.Flatten
import Mathlib.Data.List.TakeWhile

set_option relaxedAutoImplicit false
set_option autoImplicit false

namespace TeachingTree

/-- Whether a node is a field. -/
def Node.isField : Node → Bool
  | .field _ => true
  | _ => false

namespace Lowering

namespace Site

/-! ### The sites that are reached -/

/-- The sites that a lowering comes to: the live sites up to the first that has no rule. -/
def reached (site : Site) : List Site := site.live.takeWhile fun other => other.offence?.isNone

/-- The sites that the lowering of sites in order comes to. -/
def reachedAll (sites : List Site) : List Site :=
  (sites.flatMap live).takeWhile fun other => other.offence?.isNone

theorem reached_of_offence {site : Site} {e : LoweringError} (h : site.offence? = some e) :
    site.reached = [] := by
  rw [reached, live_eq, List.takeWhile_cons, h]
  rfl

/-- A site that has a rule is reached itself, and then its parts in order. -/
theorem reached_of_rule {site : Site} (h : site.offence? = none) :
    site.reached = site :: reachedAll site.parts := by
  rw [reached, live_eq, List.takeWhile_cons, h]
  rfl

@[simp] theorem reachedAll_nil : reachedAll [] = [] := rfl

/-- Where no live site is without a rule, all are reached. -/
theorem reached_of_firstOffence {site : Site} (h : site.firstOffence? = none) :
    site.reached = site.live := by
  refine List.takeWhile_eq_self_iff.2 ?_
  intro other hother
  rw [List.findSome?_eq_none_iff.1 h other hother]
  rfl

/-- The sites behind the first are reached if the first is lowered to the end. -/
theorem reachedAll_cons (site : Site) (sites : List Site) :
    reachedAll (site :: sites) =
      site.reached ++ if site.firstOffence?.isNone then reachedAll sites else [] := by
  cases h : site.firstOffence? with
  | none =>
      have hlive : ∀ other ∈ site.live, other.offence?.isNone = true := by
        intro other hother
        rw [List.findSome?_eq_none_iff.1 h other hother]
        rfl
      rw [reachedAll, List.flatMap_cons, List.takeWhile_append_of_pos hlive,
        reached_of_firstOffence h]
      rfl
  | some e =>
      obtain ⟨before, culprit, later, hlive, hculprit, hbefore⟩ := List.findSome?_eq_some_iff.1 h
      -- nothing behind the culprit is reached, be it in this site or in the following ones
      have hreached : ∀ rest : List Site,
          (before ++ culprit :: rest).takeWhile (fun other => other.offence?.isNone) = before := by
        intro rest
        have hall : ∀ other ∈ before, other.offence?.isNone = true := by
          intro other hother
          rw [hbefore other hother]
          rfl
        rw [List.takeWhile_append_of_pos hall, List.takeWhile_cons, hculprit]
        simp
      rw [reachedAll, List.flatMap_cons, reached, hlive, List.append_assoc, List.cons_append,
        hreached, hreached]
      simp

/-! ### The log of a run -/

section Log

variable {verbose : Bool}

/-- Sites in order log what is logged at the sites that they reach. -/
theorem log_lowerAll {sites : List Site}
    (h : ∀ site ∈ sites, ∀ s : State,
      (site.lower verbose s).2.log = s.log ++ site.reached.flatMap (notes verbose)) (s : State) :
    (lowerAll verbose sites s).2.log = s.log ++ (reachedAll sites).flatMap (notes verbose) := by
  induction sites generalizing s with
  | nil => simp
  | cons site sites ih =>
      have hsite := h site (List.mem_cons_self ..) s
      have hsites := ih fun other hother => h other (List.mem_cons_of_mem _ hother)
      have hfailure := failure?_lower verbose site s
      rw [lowerAll_cons_apply, reachedAll_cons, ← hfailure]
      rcases hr : site.lower verbose s with ⟨e | r, after⟩ <;> rw [hr] at hsite
      · simpa [failure?] using hsite
      · have hafter := hsites after
        rw [hsite] at hafter
        rcases hrs : lowerAll verbose sites after with ⟨e | rs, last⟩ <;> rw [hrs] at hafter <;>
          simpa [failure?, hrs] using hafter

theorem advance_log (s : State) (takes : Bool) : (s.advance takes).log = s.log := by
  cases takes <;> rfl

/-- One step: a site logs its own lines, and then its parts log theirs. -/
theorem log_step {site : Site}
    (h : ∀ part ∈ site.parts, ∀ s : State,
      (part.lower verbose s).2.log = s.log ++ part.reached.flatMap (notes verbose)) (s : State) :
    (site.step verbose s).2.log = s.log ++ site.reached.flatMap (notes verbose) := by
  have hparts : ∀ s : State, (site.lowerParts verbose s).2.log =
      s.log ++ (reachedAll site.parts).flatMap (notes verbose) := by
    intro s
    cases hchain : site.isChain with
    | false =>
        rw [lowerParts_of_not_isChain hchain]
        exact log_lowerAll h s
    | true =>
        rw [lowerParts_of_isChain hchain, Lower.withinChain_apply]
        have hinside := log_lowerAll h { s with chainActive := true }
        split <;> exact hinside
  rw [step]
  cases hoffence : site.offence? with
  | some e => simp [reached_of_offence hoffence]
  | none =>
      have hrun := hparts (site.enter verbose s)
      rw [reached_of_rule hoffence, List.flatMap_cons, ← List.append_assoc]
      rcases hr : site.lowerParts verbose (site.enter verbose s) with ⟨e | results, after⟩ <;>
        rw [hr] at hrun
      · exact hrun
      · exact (advance_log after _).trans hrun

/-- **The log of a lowering** is what was logged before, and then what is logged at the sites that
are reached, in order; it does not matter how the lowering ends. -/
theorem log_lower (site : Site) (s : State) :
    (site.lower verbose s).2.log = s.log ++ site.reached.flatMap (notes verbose) := by
  induction site using Site.induction generalizing s with
  | h site ih =>
      rw [lower_eq_step]
      exact log_step (fun part hpart s => ih part hpart s) s

end Log

/-! ### Remarks and asides -/

/-- The lines that every lowering logs at a site. -/
def remarks (site : Site) : List String := site.notes false

/-- The lines that only a verbose lowering logs at a site: one for a declaration that is skipped,
and one for each member of a record that is no field. -/
def asides : Site → List String
  | .decl (.unsupportedDecl kindName position) =>
    ["Skipping unsupported declaration " ++ kindName ++ position.logSuffix ++ "."]
  | .decl (.record name members false _) =>
    (members.filter fun node => !node.isField).map fun node =>
      "Skipping member " ++ node.memberLabel ++ " of struct '" ++ name ++ "'."
  | _ => []

/-- The lines that a verbose lowering logs at a site. -/
def verboseLines (site : Site) : List String := site.remarks ++ site.asides

/-- Nothing is said about a type. -/
theorem silent_of_mem_live_type {name : String} {depth : Nat} {other : Site}
    (h : other ∈ (Site.type name depth).live) :
    other.offence? = none ∧ other.notes true = [] ∧ other.verboseLines = [] := by
  induction depth generalizing other with
  | zero =>
      rw [live_eq] at h
      obtain rfl : other = .type name 0 := by simpa [parts] using h
      exact ⟨rfl, rfl, rfl⟩
  | succ depth ih =>
      rw [live_eq] at h
      have h : other = .type name (depth + 1) ∨ other ∈ (Site.type name depth).live := by
        simpa [parts] using h
      rcases h with rfl | h
      · exact ⟨rfl, rfl, rfl⟩
      · exact ih h

/-- Nothing is said about a field, be it a member or not. -/
theorem silent_of_mem_live_member {recordName : String} {f : Field} {other : Site}
    (h : other ∈ (Site.member recordName (.field f)).live) :
    other.offence? = none ∧ other.notes true = [] ∧ other.verboseLines = [] := by
  rw [live_eq, parts, List.flatMap_singleton, live_eq, parts, List.flatMap_singleton] at h
  rcases List.mem_cons.1 h with rfl | h
  · exact ⟨rfl, rfl, rfl⟩
  · rcases List.mem_cons.1 h with rfl | h
    · exact ⟨rfl, rfl, rfl⟩
    · exact silent_of_mem_live_type h

/-- The line that is logged at a member. -/
def memberLines (recordName : String) (node : Node) : List String :=
  if node.isField then []
  else ["Skipping member " ++ node.memberLabel ++ " of struct '" ++ recordName ++ "'."]

/-- A member is lowered to the end, and is mentioned if it is no field. -/
theorem reached_member (recordName : String) (node : Node) :
    (Site.member recordName node).firstOffence? = none ∧
      (Site.member recordName node).reached.flatMap (notes true) = memberLines recordName node ∧
      (Site.member recordName node).reached.flatMap verboseLines = [] := by
  cases node with
  | field f =>
      have hoffence : (Site.member recordName (.field f)).firstOffence? = none :=
        List.findSome?_eq_none_iff.2 fun other hother => (silent_of_mem_live_member hother).1
      rw [reached_of_firstOffence hoffence]
      refine ⟨hoffence, ?_, ?_⟩
      · exact List.flatMap_eq_nil_iff.2 fun other hother => (silent_of_mem_live_member hother).2.1
      · exact List.flatMap_eq_nil_iff.2 fun other hother => (silent_of_mem_live_member hother).2.2
  | _ =>
      refine ⟨?_, ?_, ?_⟩
      · rw [firstOffence?, live_eq]
        rfl
      · rw [reached_of_rule rfl]
        rfl
      · rw [reached_of_rule rfl]
        rfl

/-- The members of a record are all reached, and their lines are the asides of the record. -/
theorem reachedAll_members (recordName : String) (members : List Node) :
    (reachedAll (members.map (.member recordName))).flatMap (notes true) =
        members.flatMap (memberLines recordName) ∧
      (reachedAll (members.map (.member recordName))).flatMap verboseLines = [] := by
  induction members with
  | nil => exact ⟨rfl, rfl⟩
  | cons node members ih =>
      obtain ⟨hoffence, hnotes, hlines⟩ := reached_member recordName node
      rw [List.map_cons, reachedAll_cons, hoffence, Option.isNone_none, if_pos rfl,
        List.flatMap_append, List.flatMap_append, hnotes, hlines, ih.1, ih.2]
      exact ⟨rfl, rfl⟩

theorem flatMap_memberLines (recordName : String) (members : List Node) (position : Position) :
    members.flatMap (memberLines recordName) =
      (Site.decl (.record recordName members false position)).asides := by
  rw [asides]
  induction members with
  | nil => rfl
  | cons node members ih =>
      rw [List.flatMap_cons, ih, memberLines]
      cases hfield : node.isField <;> simp [hfield]

/-- What a site logs itself are its remarks and its asides, apart from members and their record. -/
theorem notes_true {site : Site} (hmember : site.isMember = false)
    (hrecord : ∀ name members position, site ≠ .decl (.record name members false position)) :
    site.notes true = site.verboseLines := by
  cases site with
  | decl node =>
      cases node with
      | record name members isImplicit position =>
          cases isImplicit with
          | true => rfl
          | false => exact absurd rfl (hrecord name members position)
      | _ => rfl
  | member recordName node => simp [isMember] at hmember
  | expr node =>
      cases node with
      | operatorCall operator args position => exact (List.append_nil _).symm
      | call callee args position => cases callee <;> rfl
      | _ => rfl
  | _ => rfl

/-- Only a record has members among its parts. -/
theorem isMember_of_mem_parts {site part : Site}
    (hrecord : ∀ name members position, site ≠ .decl (.record name members false position))
    (hpart : part ∈ site.parts) : part.isMember = false := by
  by_cases haccess : ∃ base f position, site = .expr (.member base f position)
  · obtain ⟨base, f, position, rfl⟩ := haccess
    have hpart : part = .expr base ∨ part = .key f := by simpa [parts, exprParts] using hpart
    rcases hpart with rfl | rfl <;> rfl
  · have hroles := not_key_or_member_of_mem_parts
      (fun base f position heq => haccess ⟨base, f, position, heq⟩) hrecord part hpart
    exact (Bool.or_eq_false_iff.1 hroles).2

theorem flatMap_reachedAll {sites : List Site}
    (h : ∀ site ∈ sites,
      site.reached.flatMap (notes true) = site.reached.flatMap verboseLines) :
    (reachedAll sites).flatMap (notes true) = (reachedAll sites).flatMap verboseLines := by
  induction sites with
  | nil => rfl
  | cons site sites ih =>
      have hsite := h site (List.mem_cons_self ..)
      have hsites := ih fun other hother => h other (List.mem_cons_of_mem _ hother)
      rw [reachedAll_cons, List.flatMap_append, List.flatMap_append, hsite]
      split
      · rw [hsites]
      · rfl

/-- **The lines of members, counted at their record**: what a verbose lowering logs are, site by
site, the remarks and the asides. -/
theorem flatMap_reached {site : Site} (hmember : site.isMember = false) :
    site.reached.flatMap (notes true) = site.reached.flatMap verboseLines := by
  induction site using Site.induction with
  | h site ih =>
      cases hoffence : site.offence? with
      | some e => rw [reached_of_offence hoffence]; rfl
      | none =>
          rw [reached_of_rule hoffence, List.flatMap_cons, List.flatMap_cons]
          by_cases hrecord : ∃ name members position,
              site = .decl (.record name members false position)
          · -- the record tells what its members log
            obtain ⟨name, members, position, rfl⟩ := hrecord
            obtain ⟨hnotes, hlines⟩ := reachedAll_members name members
            have hparts : (decl (.record name members false position)).parts =
                members.map (.member name) := rfl
            rw [hparts, hnotes, hlines, flatMap_memberLines name members position]
            simp [verboseLines, remarks, notes]
          · have hrecord : ∀ name members position,
                site ≠ .decl (.record name members false position) :=
              fun name members position heq => hrecord ⟨name, members, position, heq⟩
            have hparts := flatMap_reachedAll fun part hpart =>
              ih part hpart (isMember_of_mem_parts hrecord hpart)
            rw [notes_true hmember hrecord, hparts]

end Site

/-! ### Programs -/

theorem log_lowerProgram (verbose : Bool) (decls : List Node) :
    (lowerProgram verbose decls).2 = (Site.unit decls).reached.flatMap (Site.notes verbose) :=
  Site.log_lower (.unit decls) {}

theorem logLines_sublist {messages others : List String} (h : messages.Sublist others) :
    (logLines messages).Sublist (logLines others) :=
  h.flatMap _

/-- **Verbosity adds asides to the log and changes nothing else.**  A verbose lowering of a program
has the same outcome as one that is not verbose, the same document with the same numbers or the
same error.  What is logged without verbosity are the remarks of the sites that are reached, in the
order of the lowering; with verbosity each of these sites adds its asides, one line for a
declaration that is skipped and one for each member of a record that is no field. -/
theorem lowerProgram_asides (decls : List Node) :
    (lowerProgram true decls).1 = (lowerProgram false decls).1 ∧
      (lowerProgram false decls).2 = (Site.unit decls).reached.flatMap Site.remarks ∧
      (lowerProgram true decls).2 =
        (Site.unit decls).reached.flatMap (fun site => site.remarks ++ site.asides) ∧
      (lowerProgram false decls).2.Sublist (lowerProgram true decls).2 ∧
      (logLines (lowerProgram false decls).2).Sublist
        (logLines (lowerProgram true decls).2) := by
  have hplain : (lowerProgram false decls).2 = (Site.unit decls).reached.flatMap Site.remarks :=
    log_lowerProgram false decls
  have hverbose : (lowerProgram true decls).2 =
      (Site.unit decls).reached.flatMap Site.verboseLines :=
    (log_lowerProgram true decls).trans (Site.flatMap_reached rfl)
  have hsublist : (lowerProgram false decls).2.Sublist (lowerProgram true decls).2 := by
    rw [hplain, hverbose]
    exact List.Sublist.flatMap_right _ fun site _ => List.sublist_append_left _ _
  exact ⟨lowerProgram_verbose true false decls, hplain, hverbose, hsublist,
    logLines_sublist hsublist⟩

/-- A record with a method, a declaration without a rule, and a call that was not resolved. -/
example :
    let int : SourceType := .plain { kind := .integer }
    (lowerProgram true
      [.record "R" [.field { name := "f", type := int }, .method "g" ⟨2, 3⟩] false ⟨1, 1⟩,
        .unsupportedDecl "USING_DIRECTIVE" ⟨4, 1⟩,
        .var (.mk { name := "x", type := int, initStyle := some .assigned }
          (.call none [] ⟨5, 9⟩))]).2 =
      ["Skipping member MethodDecl 'g' of struct 'R'.",
        "Skipping unsupported declaration USING_DIRECTIVE at line 4, column 1.",
        "Function call without a resolvable callee at line 5, column 9."] := by cbv

end Lowering

end TeachingTree

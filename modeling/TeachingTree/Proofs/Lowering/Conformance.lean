/-
**The results of a lowering conform to the grammar.**

A result is a node, nothing, or a group of nodes, and lists are made of results by splicing; at
each of the places where that happens a group must not end up inside a list.  The theorem is that
none does: whatever is lowered, in a chain or outside, a success fits into the grammar of the
schema.  It follows that the result has a JSON value, and that writing it meets no value of the
wrong type as long as the characters of the source tree are texts.

Main definitions:

* `Site.Accepts` — what the place of a site is reserved for;
* `Site.Becomes` — a result of the right sort that fits into the grammar;
* `Site.Admits`, `Site.HoldsTexts` — what the live characters are.

Main results:

* `Site.becomes_result` — what a site makes of fitting results fits;
* `Site.becomes_lower` — **every success fits into the grammar**;
* `Site.conformance_of_lowering` — that, and what it means for the JSON form.
-/

import TeachingTree.Proofs.Lowering.Results
import TeachingTree.Proofs.Schema.Serialization

set_option relaxedAutoImplicit false
set_option autoImplicit false

namespace TeachingTree.Lowering

namespace Site

/-! ### Results of the right sort -/

/-- What the place of a site is reserved for: the members of a record contribute fields. -/
def Accepts : Site → Schema → Prop
  | .type _ _, r => r.sort? = some .type
  | .block _, r => r.sort? = some .block
  | .var _, r => r.sort? = some .var
  | .field _, r => r.sort? = some .field
  | .member _ _, r => ∀ node ∈ r.splice, node.sort? = some .field
  | _, _ => True

/-- A result of the right sort that fits into the grammar. -/
structure Becomes (value : Constant → Prop) (site : Site) (r : Schema) : Prop where
  sort : site.Accepts r
  fits : r.Fits value

/-- The values of the characters that are live in a site are admitted. -/
def Admits (value : Constant → Prop) (site : Site) : Prop :=
  ∀ v position, .expr (.character v position) ∈ site.live → value v

/-- The characters that are live in a site are texts, which is what source trees declare them to
be. -/
def HoldsTexts (site : Site) : Prop := site.Admits fun v => ∃ points, v = .text points

theorem Admits.of_mem_parts {value : Constant → Prop} {site part : Site} (h : site.Admits value)
    (hpart : part ∈ site.parts) : part.Admits value :=
  fun v position hlive => h v position (mem_live_of_mem_parts hpart hlive)

section Result

variable {value : Constant → Prop} {inChain : Bool} {id : Int} {sites : List Site}
  {results : List Schema}

/-! ### Results in a row -/

/-- The nodes that fitting results contribute to a list are nodes of the grammar. -/
theorem conforms_of_mem_spliceAll (h : List.Forall₂ (Becomes value) sites results) :
    ∀ node ∈ spliceAll results, node.Conforms value := by
  refine Schema.conforms_of_mem_flatMap_splice fun r hr => ?_
  obtain ⟨site, -, hsite⟩ := exists_of_mem_of_forall₂ h hr
  exact hsite.fits

theorem conforms_of_mem_chainItems (h : List.Forall₂ (Becomes value) sites results) :
    ∀ node ∈ chainItems results, node.Conforms value := fun node hnode =>
  conforms_of_mem_spliceAll h node ((chainItems_sublist results).subset hnode)

/-! ### One site -/

/-- What an expression makes of fitting results fits. -/
theorem fits_exprResult {node : Node} (h : List.Forall₂ (Becomes value) (exprParts node) results)
    (hscalar : ∀ v : Constant, v.isScalar = true → value v)
    (hvalue : ∀ v position, node = .character v position → value v) :
    (exprResult inChain id results node).Fits value := by
  cases node with
  | integer n position => exact (Schema.Conforms.literal (hscalar _ rfl)).fits
  | floating x position => exact (Schema.Conforms.literal (hscalar _ rfl)).fits
  | character v position => exact (Schema.Conforms.literal (hvalue v position rfl)).fits
  | string points position => exact (Schema.Conforms.literal (hscalar _ rfl)).fits
  | bool b position => exact (Schema.Conforms.literal (hscalar _ rfl)).fits
  | reference name declared position =>
      simp only [exprResult]
      split
      · exact Schema.fits_absent
      · split
        · exact (Schema.Conforms.literal (hscalar _ rfl)).fits
        · exact Schema.fits_absent
      · exact Schema.Conforms.identifier.fits
  | unary opcode operand isLeading position =>
      rcases h with _ | ⟨hx, _ | _⟩
      exact (Schema.Conforms.unary hx.fits).fits
  | binary opcode lhs rhs position =>
      simp only [exprParts] at h
      simp only [exprResult]
      split at h
      · rename_i hcomma
        rw [if_pos hcomma]
        exact Schema.Conforms.message.fits
      · rename_i hcomma
        rw [if_neg hcomma]
        rcases h with _ | ⟨hl, _ | ⟨hr, _ | _⟩⟩
        exact (Schema.Conforms.binary hl.fits hr.fits).fits
  | member base f position =>
      rcases h with _ | ⟨hb, _ | ⟨hk, _ | _⟩⟩
      exact (Schema.Conforms.binary hb.fits hk.fits).fits
  | subscript base index position =>
      rcases h with _ | ⟨hb, _ | ⟨hi, _ | _⟩⟩
      exact (Schema.Conforms.binary hb.fits hi.fits).fits
  | methodCall method receiver args position =>
      rcases h with _ | ⟨hc, _ | ⟨hx, _ | _⟩⟩
      exact (Schema.Conforms.binary hx.fits hc.fits).fits
  | call callee args position =>
      cases callee with
      | none => exact Schema.Conforms.message.fits
      | some callee => exact (Schema.Conforms.call (conforms_of_mem_spliceAll h)).fits
  | operatorCall operator args position =>
      simp only [exprParts] at h
      simp only [exprResult]
      cases huse : operatorUse operator args.length with
      | chain callName =>
          simp only [huse, OperatorUse.lowersOperands, if_true] at h
          cases inChain with
          | false => exact (Schema.Conforms.call (conforms_of_mem_chainItems h)).fits
          | true => exact Schema.fits_group (conforms_of_mem_chainItems h)
      | binary opcode =>
          simp only [huse, OperatorUse.lowersOperands, if_true] at h
          obtain ⟨lhs, rhs, rfl⟩ := exists_pair_of_operatorUse_binary huse
          rcases h with _ | ⟨hl, _ | ⟨hr, _ | _⟩⟩
          exact (Schema.Conforms.binary hl.fits hr.fits).fits
      | comma => exact Schema.Conforms.message.fits
      | other => exact Schema.Conforms.message.fits
  | _ => exact Schema.fits_absent

/-- What a statement makes of fitting results fits. -/
theorem fits_stmtResult {node : Node} (h : List.Forall₂ (Becomes value) (stmtParts node) results) :
    (stmtResult id results node).Fits value := by
  cases node with
  | absent => exact Schema.fits_absent
  | nullStmt position => exact Schema.fits_absent
  | compound body position => exact Schema.fits_group (conforms_of_mem_spliceAll h)
  | ifStmt condition thenBranch elseBranch declared position =>
      simp only [stmtParts] at h
      split at h
      · rcases h with _ | ⟨hc, _ | ⟨ht, _ | _⟩⟩
        exact (Schema.Conforms.conditional hc.fits ht.sort (ht.fits.conforms ht.sort)).fits
      · rcases h with _ | ⟨hc, _ | ⟨ht, _ | ⟨he, _ | _⟩⟩⟩
        exact (Schema.Conforms.conditionalElse hc.fits ht.sort (ht.fits.conforms ht.sort)
          he.sort (he.fits.conforms he.sort)).fits
  | whileStmt condition body declared position =>
      rcases h with _ | ⟨hc, _ | ⟨hb, _ | _⟩⟩
      exact (Schema.Conforms.whileLoop hc.fits hb.sort (hb.fits.conforms hb.sort)).fits
  | forStmt init condition increment body position =>
      rcases h with _ | ⟨hi, _ | ⟨hc, _ | ⟨hp, _ | ⟨hb, _ | _⟩⟩⟩⟩
      exact (Schema.Conforms.forLoop hi.fits hc.fits hp.fits hb.sort
        (hb.fits.conforms hb.sort)).fits
  | returnStmt value position =>
      rcases h with _ | ⟨hx, _ | _⟩
      exact (Schema.Conforms.returned hx.fits).fits
  | declStmt decls position =>
      -- a declaration alone stands for itself, and only several of them are a group
      rcases decls with _ | ⟨d, _ | ⟨d', ds⟩⟩
      · exact Schema.fits_group (conforms_of_mem_spliceAll h)
      · rcases h with _ | ⟨hd, _ | _⟩
        exact hd.fits
      · exact Schema.fits_group (conforms_of_mem_spliceAll h)
  | doStmt | breakStmt | continueStmt | gotoStmt | labelStmt | unsupportedStmt =>
      exact Schema.Conforms.message.fits
  | _ =>
      rcases h with _ | ⟨hx, _ | _⟩
      exact hx.fits

/-- A function is made of its type, variables and a block. -/
theorem conforms_function {name : String} {resultType : SourceType} {params : List Variable}
    {body : Node} {isDefinition : Bool} {position : Position}
    (h : List.Forall₂ (Becomes value)
      (declParts (.function name resultType params body isDefinition position)) results) :
    (declResult id results (.function name resultType params body isDefinition position)).Conforms
      value := by
  simp only [declParts] at h
  obtain ⟨t, rest, ht, hrest, rfl⟩ := List.forall₂_cons_left_iff.1 h
  obtain ⟨ps, b, hps, hb, rfl⟩ := exists_of_forall₂_concat hrest
  have hparameter : ∀ p ∈ ps, p.sort? = some .var ∧ p.Conforms value := by
    intro p hp
    obtain ⟨site, hsite, hbecomes⟩ := exists_of_mem_of_forall₂ hps hp
    obtain ⟨v, -, rfl⟩ := List.mem_map.1 hsite
    exact ⟨hbecomes.sort, hbecomes.fits.conforms hbecomes.sort⟩
  rw [declResult_function]
  exact .function ht.sort (ht.fits.conforms ht.sort) (fun p hp => (hparameter p hp).1)
    (fun p hp => (hparameter p hp).2) hb.sort (hb.fits.conforms hb.sort)

/-- A structure is made of fields: the other members of a record contribute nothing. -/
theorem conforms_struct {name : String} {members : List Node} {position : Position}
    (h : List.Forall₂ (Becomes value) (members.map (.member name)) results) :
    (Schema.struct id position name (spliceAll results)).Conforms value := by
  refine .struct ?_ (conforms_of_mem_spliceAll h)
  intro node hnode
  obtain ⟨r, hr, hnode⟩ := List.mem_flatMap.1 hnode
  obtain ⟨site, hsite, hbecomes⟩ := exists_of_mem_of_forall₂ h hr
  obtain ⟨member, -, rfl⟩ := List.mem_map.1 hsite
  exact hbecomes.sort node hnode

/-- What a declaration makes of fitting results fits. -/
theorem fits_declResult {node : Node} (h : List.Forall₂ (Becomes value) (declParts node) results) :
    (declResult id results node).Fits value := by
  cases node with
  | function name result params body isDefinition position => exact (conforms_function h).fits
  | var v =>
      rcases h with _ | ⟨hv, _ | _⟩
      exact hv.fits
  | field f =>
      rcases h with _ | ⟨hf, _ | _⟩
      exact hf.fits
  | record name members isImplicit position =>
      cases isImplicit with
      | true => exact Schema.fits_absent
      | false => exact (conforms_struct h).fits
  | _ => exact Schema.fits_absent

/-- What a variable makes of its type and, possibly, its initial value. -/
theorem conforms_var {v : Variable}
    (h : List.Forall₂ (Becomes value) (Site.var v).parts results) :
    (varResult id results v.head).Conforms value := by
  have hinit : ∀ {x : Schema}, x.Fits value →
      (singleNode x).isGroup = false ∧ (singleNode x).Fits value := by
    intro x hx
    cases hgroup : x.isGroup with
    | true =>
        rw [singleNode, if_pos hgroup]
        exact ⟨rfl, Schema.fits_absent⟩
    | false =>
        rw [singleNode, if_neg (by simp [hgroup])]
        exact ⟨hgroup, hx⟩
  simp only [parts] at h
  split at h
  · rcases h with _ | ⟨ht, _ | ⟨hx, _ | _⟩⟩
    exact .var ht.sort (ht.fits.conforms ht.sort) (hinit hx.fits).1 (hinit hx.fits).2
  · rcases h with _ | ⟨ht, _ | _⟩
    exact .var ht.sort (ht.fits.conforms ht.sort) rfl Schema.fits_absent

/-- **What a site makes of fitting results fits**, and is of the right sort. -/
theorem becomes_result {site : Site} (h : List.Forall₂ (Becomes value) site.parts results)
    (hscalar : ∀ v : Constant, v.isScalar = true → value v)
    (hvalue : ∀ v position, site = .expr (.character v position) → value v) :
    Becomes value site (site.result inChain id results) := by
  cases site with
  | expr node => exact ⟨trivial, fits_exprResult h hscalar fun v p hv => hvalue v p (hv ▸ rfl)⟩
  | stmt node => exact ⟨trivial, fits_stmtResult h⟩
  | decl node => exact ⟨trivial, fits_declResult h⟩
  | unit decls => exact ⟨trivial, (Schema.Conforms.document (conforms_of_mem_spliceAll h)).fits⟩
  | var v => exact ⟨rfl, (conforms_var h).fits⟩
  | field f =>
      rcases h with _ | ⟨ht, _ | _⟩
      exact ⟨rfl, (Schema.Conforms.field ht.sort (ht.fits.conforms ht.sort)).fits⟩
  | key f => exact ⟨trivial, (Schema.Conforms.literal (hscalar _ rfl)).fits⟩
  | member recordName node =>
      cases node with
      | field f =>
          rcases h with _ | ⟨hf, _ | _⟩
          refine ⟨?_, hf.fits⟩
          have hsort : Schema.sort? _ = some NodeSort.field := hf.sort
          intro node hnode
          have hnode := Schema.splice_of_sort? hsort ▸ hnode
          rwa [List.mem_singleton.1 hnode]
      | _ =>
          rcases h with _ | _
          exact ⟨fun node hnode => by simp [result] at hnode, Schema.fits_absent⟩
  | type name depth =>
      cases depth with
      | zero => exact ⟨rfl, Schema.Conforms.type.fits⟩
      | succ depth =>
          rcases h with _ | ⟨ht, _ | _⟩
          exact ⟨rfl, (Schema.Conforms.vector ht.sort (ht.fits.conforms ht.sort)).fits⟩
  | block body =>
      rcases h with _ | ⟨hr, _ | _⟩
      exact ⟨rfl, (Schema.Conforms.block hr.fits).fits⟩
  | loopInit init position =>
      rcases h with _ | ⟨hr, _ | _⟩
      refine ⟨trivial, ?_⟩
      simp only [result, loopInitResult]
      split
      · exact Schema.Conforms.message.fits
      · exact hr.fits
  | conditionVariable construct v => exact ⟨trivial, Schema.Conforms.message.fits⟩
  | methodCall method args position =>
      exact ⟨trivial, (Schema.Conforms.call (conforms_of_mem_spliceAll h)).fits⟩

end Result

/-! ### All sites -/

/-- **Every success fits into the grammar**, with the values that scalars and live characters
have. -/
theorem becomes_lower {verbose : Bool} {value : Constant → Prop}
    (hscalar : ∀ v : Constant, v.isScalar = true → value v) {site : Site} {s last : State}
    {r : Schema} (h : site.lower verbose s = (.ok r, last)) (hvalue : site.Admits value) :
    Becomes value site r := by
  refine rel_of_lower (R := fun site r => site.Admits value → Becomes value site r) ?_ h hvalue
  intro site inChain id results hparts hvalue
  refine becomes_result (hparts.imp fun part r hpart => ?_) hscalar ?_
  · exact hpart.2 (hvalue.of_mem_parts hpart.1)
  · rintro v position rfl
    exact hvalue v position (mem_live_self _)

/-- **Conformance.**  Whatever is lowered, from whatever state: if that succeeds, the result is
nothing, a node of the grammar or several of them in a row, and it has a JSON value.  If the
characters of the source tree are texts, then writing the result, with whatever indentation, meets
no value of the wrong type. -/
theorem conformance_of_lowering (verbose : Bool) (site : Site) (s last : State) (r : Schema)
    (h : site.lower verbose s = (.ok r, last)) :
    (r = .absent ∨ r.Conforms (fun _ => True) ∨
        ∃ items, r = .group items ∧ ∀ node ∈ items, node.Conforms (fun _ => True)) ∧
      site.Accepts r ∧ (∃ json, r.toJson = .ok json) ∧
      (site.HoldsTexts →
        ∀ room indent e, r.documentText room indent = .error e → e.isTypeError = false) := by
  have hall : Becomes (fun _ => True) site r :=
    becomes_lower (fun _ _ => trivial) h fun _ _ _ => trivial
  obtain ⟨json, hjson, -⟩ := hall.fits.serializes
  refine ⟨Schema.fits_iff.1 hall.fits, hall.sort, ⟨json, hjson⟩, ?_⟩
  intro htexts room indent e he
  have hscalars : Becomes (·.isScalar = true) site r := by
    refine becomes_lower (fun _ hv => hv) h ?_
    intro v position hlive
    obtain ⟨points, rfl⟩ := htexts v position hlive
    rfl
  exact hscalars.fits.documentText_isTypeError he

/-- The statement `std::cout << 'a';`. -/
def printCharacter : Node :=
  .operatorCall (some "<<")
    [.reference "cout" (.plain { kind := .stream }) .unknown,
      .character (.ofString "a") .unknown] .unknown

/-- The conformance of a call with one literal. -/
theorem conformance_of_printCharacter :
    ∃ r last, (Site.stmt printCharacter).lower false {} = (.ok r, last) ∧
      (r = .absent ∨ r.Conforms (fun _ => True) ∨
        ∃ items, r = .group items ∧ ∀ node ∈ items, node.Conforms (fun _ => True)) ∧
      (∃ json, r.toJson = .ok json) ∧
      ∀ room indent e, r.documentText room indent = .error e → e.isTypeError = false := by
  obtain ⟨hfits, -, hjson, htext⟩ :=
    conformance_of_lowering false (.stmt printCharacter) {} _ _ rfl
  refine ⟨_, _, rfl, hfits, hjson, htext ?_⟩
  intro v position hlive
  simp [live_eq, parts, stmtParts, exprParts, rejected?, printCharacter, operatorUse, streamCall?,
    OperatorUse.lowersOperands] at hlive
  exact ⟨_, hlive.1⟩

end Site

end TeachingTree.Lowering

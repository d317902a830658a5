/-
**Programs are recovered from the JSON values of their documents.**

The JSON value of a tree tells its nodes apart, unless a literal is called an identifier, an
operator a return, or a program stands below another node.  Lowering makes no such literal and no
such program; and an operator with one operand is called a return only if the source tree calls it
so, which no operator is.  So two programs with the same JSON value have the same document.

Main definitions:

* `Site.obscure?` — a mark on sites whose nodes are not told from all others;
* `Site.HasNoReturnOperator` — no live operator is called a return.

Main results:

* `Site.pick_eq_nil` — where no live site contributes anything, nothing is picked;
* `exists_isDistinct_of_lowerProgram` — the nodes of a document are told from each other;
* `exists_ofDocumentDatum?_of_lowerProgram` — a document is recovered from its JSON value;
* `sameText_of_lowerProgram` — **programs with the same JSON value have the same document**.
-/

import TeachingTree.Proofs.Lowering.Conformance
import TeachingTree.Proofs.Lowering.Kept
import TeachingTree.Proofs.Lowering.Renumbering
import TeachingTree.Proofs.Schema.Recovery

set_option relaxedAutoImplicit false
set_option autoImplicit false

namespace TeachingTree.Lowering

open JsonText (datum)

namespace Site

/-! ### Where nothing is picked -/

/-- Where no live site contributes anything, nothing is picked. -/
theorem pick_eq_nil {α : Type} {own : Bool → Site → Option α} (site : Site)
    (h : ∀ inChain, ∀ other ∈ site.live, own inChain other = none) (inChain : Bool) :
    site.pick own inChain = [] := by
  induction site using Site.induction generalizing inChain with
  | h site ih =>
      rw [pick_eq, h inChain site (mem_live_self site), Option.toList_none, List.nil_append,
        List.flatMap_eq_nil_iff]
      intro part hpart
      have hparts := kept_subset site hpart
      exact ih part hparts (fun inChain other hother =>
        h inChain other (mem_live_of_mem_parts hparts hother)) _

/-- A whole program is a part of nothing. -/
theorem unit_notMem_parts (decls : List Node) (site : Site) : unit decls ∉ site.parts := by
  cases site with
  | expr node =>
      cases node with
      | binary opcode lhs rhs position =>
          simp only [parts, exprParts]
          split <;> simp
      | operatorCall operator args position =>
          simp only [parts, exprParts]
          split <;> simp
      | call callee args position => cases callee <;> simp [parts, exprParts]
      | _ => simp [parts, exprParts]
  | stmt node =>
      cases node with
      | ifStmt condition thenBranch elseBranch declared position =>
          cases declared <;> simp [parts, stmtParts, ofCondition]
      | whileStmt condition body declared position =>
          cases declared <;> simp [parts, stmtParts, ofCondition]
      | _ => simp [parts, stmtParts]
  | decl node => cases node <;> simp [parts, declParts, ofType]
  | member recordName node => cases node <;> simp [parts]
  | type name depth => cases depth <;> simp [parts]
  | var v => cases hkeeps : keepsInit v.head <;> simp [parts, ofType, hkeeps]
  | _ => simp [parts, ofType]

/-! ### Nodes that are not told from others -/

/-- A mark on the sites of nodes that are not told from all others: whole programs, and operators
that are called returns. -/
def obscure? (_ : Bool) : Site → Option Unit
  | .unit _ => some ()
  | .expr (.unary opcode _ _ _) => if opcode = "return" then some () else none
  | _ => none

theorem unaryOpcode_eq_return_iff (opcode : String) (isLeading : Bool) :
    unaryOpcode opcode isLeading = "return" ↔ opcode = "return" := by
  rw [unaryOpcode]
  split_ifs with hstep hleading hnot hneg hpos
  · rcases hstep with rfl | rfl <;> decide
  · rcases hstep with rfl | rfl <;> decide
  · simp [hnot]
  · simp [hneg]
  · simp [hpos]
  · rfl

section Made

-- the tables of the scheme, which in this section stand for single sites only
attribute [local simp] made? numbersFirst numbersLast exprNumbersLast result exprResult stmtResult
  declResult varResult commaMessage rejected? Schema.obscure? obscure? unaryOpcode_eq_return_iff

/-- Only such sites make nodes that are not told from all others. -/
theorem obscure_of_made (inChain : Bool) (id : Int) (results : List Schema) (site : Site) :
    (site.made? inChain id results).bind Schema.obscure? = site.obscure? inChain := by
  cases site with
  | expr node =>
      cases node with
      | reference name declared position =>
          cases hkind : declared.kind <;> by_cases hname : name = "endl" <;> simp [hkind, hname]
      | binary opcode lhs rhs position => by_cases hcomma : opcode = "," <;> simp [hcomma]
      | operatorCall operator args position =>
          cases huse : operatorUse operator args.length <;> cases inChain <;> simp [huse]
      | call callee args position => cases callee <;> simp
      | _ => simp
  | stmt node => cases node <;> simp
  | decl node =>
      cases node with
      | record name members isImplicit position => cases isImplicit <;> simp
      | _ => simp
  | type name depth => cases depth <;> simp
  | loopInit init position =>
      rw [made?_loopInit]
      split <;> rfl
  | _ => simp

end Made

/-- No operator with one operand that is live in a site is called a return. -/
def HasNoReturnOperator (site : Site) : Prop :=
  ∀ opcode operand isLeading position,
    .expr (.unary opcode operand isLeading position) ∈ site.live → opcode ≠ "return"

theorem eq_or_mem_parts_of_mem_live {site other : Site} (h : other ∈ site.live) :
    other = site ∨ ∃ parent : Site, other ∈ parent.parts := by
  induction site using Site.induction with
  | h site ih =>
      rw [live_eq, List.mem_cons, List.mem_flatMap] at h
      obtain h | ⟨part, hpart, hother⟩ := h
      · exact .inl h
      · obtain rfl | hparent := ih part hpart hother
        · exact .inr ⟨site, hpart⟩
        · exact .inr hparent

/-- Nothing below a program is obscure. -/
theorem obscure?_of_mem_live {decls : List Node} (h : (unit decls).HasNoReturnOperator)
    {part other : Site} (hpart : part ∈ (unit decls).parts) (hother : other ∈ part.live)
    (inChain : Bool) : other.obscure? inChain = none := by
  have hlive : other ∈ (unit decls).live := mem_live_of_mem_parts hpart hother
  cases other with
  | unit others =>
      obtain rfl | ⟨parent, hparent⟩ := eq_or_mem_parts_of_mem_live hother
      · exact absurd hpart (unit_notMem_parts _ _)
      · exact absurd hparent (unit_notMem_parts _ _)
  | expr node =>
      cases node with
      | unary opcode operand isLeading position =>
          exact if_neg (h opcode operand isLeading position hlive)
      | _ => rfl
  | _ => rfl

/-- A program is the only thing in it that is obscure. -/
theorem pick_obscure?_unit {decls : List Node} (h : (unit decls).HasNoReturnOperator) :
    (unit decls).pick obscure? false = [()] := by
  have hparts : ∀ part ∈ (unit decls).parts, part.pick obscure? false = [] := fun part hpart =>
    pick_eq_nil part (fun inChain other hother => obscure?_of_mem_live h hpart hother inChain) _
  rw [pick_eq]
  have hkept : (unit decls).kept.flatMap (pick obscure? false) = [] :=
    List.flatMap_eq_nil_iff.2 fun part hpart => hparts part (kept_subset _ hpart)
  simp [obscure?, isChain, hkept]

end Site

/-! ### Programs -/

section Program

variable {verbose : Bool} {decls : List Node} {document : Schema}

/-- The nodes of a document are told from each other, the program apart. -/
theorem exists_isDistinct_of_lowerProgram (h : (lowerProgram verbose decls).1 = .ok document)
    (htexts : (Site.unit decls).HoldsTexts) (hreturn : (Site.unit decls).HasNoReturnOperator) :
    ∃ statements, document = .document 0 statements ∧
      ∀ node ∈ statements, node.All Schema.IsDistinct := by
  obtain ⟨statements, rfl⟩ := eq_document_of_lowerProgram verbose h
  obtain ⟨last, hrun⟩ := Site.exists_lower_unit_of_lowerProgram h
  have hbecomes : Site.Becomes (·.isScalar = true) (.unit decls) (.document 0 statements) := by
    refine Site.becomes_lower (fun _ hv => hv) hrun ?_
    intro v position hlive
    obtain ⟨points, rfl⟩ := htexts v position hlive
    rfl
  have hconforms : (Schema.document 0 statements).Conforms (·.isScalar = true) :=
    hbecomes.fits _ (List.mem_singleton_self _)
  have hpick : (Schema.document 0 statements).pick Schema.obscure? = [()] :=
    (Site.pick_of_lower (fun inChain site id results _ _ =>
      Site.obscure_of_made inChain id results site) hrun (by simp)).trans
      (Site.pick_obscure?_unit hreturn)
  have hbelow : Schema.pickAll Schema.obscure? statements = [] := by
    simpa [Schema.pick, Schema.obscure?] using hpick
  refine ⟨statements, rfl, fun node hnode => ?_⟩
  cases hconforms.all with
  | document _ hnodes =>
      exact (hnodes node hnode).and_of_pick_eq_nil (fun _ => rfl)
        (Schema.pick_eq_nil_of_mem hbelow node hnode)

/-- The document of a program is recovered from its JSON value. -/
theorem exists_ofDocumentDatum?_of_lowerProgram (h : (lowerProgram verbose decls).1 = .ok document)
    (htexts : (Site.unit decls).HoldsTexts) (hreturn : (Site.unit decls).HasNoReturnOperator) :
    ∃ value, document.toJson = .ok value ∧ ∀ read, Schema.ofDocumentDatum? read (datum value) =
      some (document.mapNumbers (read ∘ NumberStyle.document.text)) := by
  obtain ⟨statements, rfl, hnodes⟩ := exists_isDistinct_of_lowerProgram h htexts hreturn
  exact Schema.exists_ofDocumentDatum? hnodes

end Program

/-- **Programs with the same JSON value have the same document.**  Where two programs are lowered,
be it with notes or without, their documents are recovered from their JSON values; so if those are
the same, then the documents are, where numbers are compared by their texts.  This takes that the
live characters of the programs are texts, and that no live operator is called a return. -/
theorem sameText_of_lowerProgram {verbose verbose' : Bool} {decls decls' : List Node}
    {document document' : Schema} (h : (lowerProgram verbose decls).1 = .ok document)
    (h' : (lowerProgram verbose' decls').1 = .ok document')
    (htexts : (Site.unit decls).HoldsTexts) (htexts' : (Site.unit decls').HoldsTexts)
    (hreturn : (Site.unit decls).HasNoReturnOperator)
    (hreturn' : (Site.unit decls').HasNoReturnOperator) :
    ∃ value value', document.toJson = .ok value ∧ document'.toJson = .ok value' ∧
      ((datum value).Same (datum value') → document.SameText document') := by
  obtain ⟨value, hvalue, hrecovered⟩ := exists_ofDocumentDatum?_of_lowerProgram h htexts hreturn
  obtain ⟨value', hvalue', hrecovered'⟩ :=
    exists_ofDocumentDatum?_of_lowerProgram h' htexts' hreturn'
  refine ⟨value, value', hvalue, hvalue', fun hsame read => ?_⟩
  have hboth := Schema.ofDocumentDatum?_of_same read hsame
  rw [hrecovered read, hrecovered' read] at hboth
  exact Option.some.inj hboth

/-- The function `int main()` with the statement `return` and an expression. -/
def returningProgram (expression : Node) : List Node :=
  [.function "main" (.plain { kind := .integer }) []
    (.compound [.returnStmt expression ⟨1, 14⟩] ⟨1, 12⟩) true ⟨1, 1⟩]

/-- The expressions that are live in such a program are live in its expression. -/
theorem mem_live_of_returningProgram {expression node : Node}
    (h : .expr node ∈ (Site.unit (returningProgram expression)).live) :
    .expr node ∈ (Site.expr expression).live := by
  simpa [returningProgram, Site.live_eq (.unit _), Site.live_eq (.decl _), Site.live_eq (.type _ _),
    Site.live_eq (.block _), Site.live_eq (.stmt _), Site.parts, Site.declParts, Site.stmtParts,
    Site.ofType, SourceType.vectorDepth] using h

/-- The number 1.5. -/
def oneAndAHalf : Binary64 := Binary64.ofDecimal false 15 (-1)

/-- The expression `-1.5`. -/
def negated : Node := .unary "-" (.floating oneAndAHalf ⟨1, 22⟩) true ⟨1, 21⟩

/-- The expression `'a'`. -/
def characterA : Node := .character (.ofString "a") ⟨1, 28⟩

/-- Two programs with the same document: `return -1.5 + 'a';` with the operator of the language, and
with one that is overloaded. -/
theorem sameText_of_returningProgram :
    let program := returningProgram (.binary "+" negated characterA ⟨1, 21⟩)
    let program' := returningProgram (.operatorCall (some "+") [negated, characterA] ⟨1, 21⟩)
    ∃ document document', (lowerProgram false program).1 = .ok document ∧
      (lowerProgram true program').1 = .ok document' ∧
      (Site.unit program).HoldsTexts ∧ (Site.unit program').HoldsTexts ∧
      (Site.unit program).HasNoReturnOperator ∧ (Site.unit program').HasNoReturnOperator ∧
      ∃ value value', document.toJson = .ok value ∧ document'.toJson = .ok value' ∧
        (datum value).Same (datum value') ∧ document.SameText document' := by
  intro program program'
  have huse : operatorUse (some "+") 2 = .binary "+" := by decide
  -- the operands are the same, and the operators are no characters and have two of them
  have hnodes : ∀ node, .expr node ∈ (Site.unit program).live ∨
      .expr node ∈ (Site.unit program').live →
      (∀ v position, node = .character v position → v = .ofString "a") ∧
        ∀ opcode operand isLeading position,
          node = .unary opcode operand isLeading position → opcode = "-" := by
    rintro node (hnode | hnode)
    all_goals
      have hnode := mem_live_of_returningProgram hnode
      simp [Site.live_eq, Site.parts, Site.exprParts, negated, characterA, huse,
        OperatorUse.lowersOperands] at hnode
      obtain rfl | rfl | rfl | rfl := hnode <;> simp +contextual
  have htexts : (Site.unit program).HoldsTexts ∧ (Site.unit program').HoldsTexts :=
    ⟨fun v position h => ⟨_, (hnodes _ (.inl h)).1 v position rfl⟩,
      fun v position h => ⟨_, (hnodes _ (.inr h)).1 v position rfl⟩⟩
  have hreturn : (Site.unit program).HasNoReturnOperator ∧
      (Site.unit program').HasNoReturnOperator := by
    constructor <;> rintro opcode operand isLeading position h rfl
    · exact absurd ((hnodes _ (.inl h)).2 _ _ _ _ rfl) (by decide)
    · exact absurd ((hnodes _ (.inr h)).2 _ _ _ _ rfl) (by decide)
  obtain ⟨document, hrun, hrun'⟩ : ∃ document, (lowerProgram false program).1 = .ok document ∧
      (lowerProgram true program').1 = .ok document := ⟨_, rfl, rfl⟩
  obtain ⟨value, value', hvalue, hvalue', hsame⟩ :=
    sameText_of_lowerProgram hrun hrun' htexts.1 htexts.2 hreturn.1 hreturn.2
  obtain rfl : value = value' := Except.ok.inj (hvalue.symm.trans hvalue')
  exact ⟨document, document, hrun, hrun', htexts.1, htexts.2, hreturn.1, hreturn.2, value, value,
    hvalue, hvalue', .refl _, hsame (.refl _)⟩

end TeachingTree.Lowering

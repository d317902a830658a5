/-
**A lowering does not depend on where its counter starts.**

Numbers are handed out one after the other, and no rule ever looks at one.  A lowering that starts
from a counter that is larger by some offset therefore gives the same tree with all numbers larger
by that offset, stops with the same failure where it stops, and logs the same lines.

Declarations leave nothing behind them but the counter and the log.  The document of two programs
one after the other is thus the document of the first with the statements of the second put behind
its own, under numbers that are larger by what the first has used up.

Main definitions:

* `Schema.renumber` — a tree with all its numbers larger by an offset;
* `State.shift`, `renumbered` — a state and an outcome with all numbers larger by an offset.

Main results:

* `Site.result_renumber` — one site makes the renumbered result of renumbered parts;
* `Site.lower_shift` — **a lowering does not depend on where its counter starts**;
* `lowerUnit_append` — the declarations of two programs in one;
* `renumbering_of_lowering` — both for the roles in which a source tree is lowered, and for
  programs.
-/

import TeachingTree.Proofs.Lowering.Context
import TeachingTree.Proofs.Lowering.Failure
import TeachingTree.Proofs.Lowering.Verbosity

set_option relaxedAutoImplicit false
set_option autoImplicit false

namespace TeachingTree

/-! ### Renumbered trees -/

namespace Schema

mutual

/-- A tree with all its numbers larger by an offset, and the same in everything else. -/
def renumber (offset : Int) : Schema → Schema
  | .absent => .absent
  | .group items => .group (renumberAll offset items)
  | .foreign className => .foreign className
  | .type id name dataType => .type (id + offset) name (renumber offset dataType)
  | .literal id position kind value => .literal (id + offset) position kind value
  | .identifier id position name => .identifier (id + offset) position name
  | .message id position kind tag description =>
    .message (id + offset) position kind tag description
  | .unary id position opcode expression =>
    .unary (id + offset) position opcode (renumber offset expression)
  | .binary id position opcode left right =>
    .binary (id + offset) position opcode (renumber offset left) (renumber offset right)
  | .call id position name arguments =>
    .call (id + offset) position name (renumberAll offset arguments)
  | .block id statements => .block (id + offset) (renumberAll offset statements)
  | .conditional id position condition thenBlock elseBlock =>
    .conditional (id + offset) position (renumber offset condition) (renumber offset thenBlock)
      (renumber offset elseBlock)
  | .whileLoop id position condition body =>
    .whileLoop (id + offset) position (renumber offset condition) (renumber offset body)
  | .forLoop id position init condition post body =>
    .forLoop (id + offset) position (renumber offset init) (renumber offset condition)
      (renumber offset post) (renumber offset body)
  | .returned id position expression =>
    .returned (id + offset) position (renumber offset expression)
  | .var id position name dataType isReference isConst init isParameter =>
    .var (id + offset) position name (renumber offset dataType) isReference isConst
      (renumber offset init) isParameter
  | .field id position name dataType =>
    .field (id + offset) position name (renumber offset dataType)
  | .function id position name returnType parameters body =>
    .function (id + offset) position name (renumber offset returnType)
      (renumberAll offset parameters) (renumber offset body)
  | .struct id position name attributes =>
    .struct (id + offset) position name (renumberAll offset attributes)
  | .document id statements => .document (id + offset) (renumberAll offset statements)

/-- Renumbers each of several trees. -/
def renumberAll (offset : Int) : List Schema → List Schema
  | [] => []
  | tree :: trees => renumber offset tree :: renumberAll offset trees

end

variable (offset : Int)

@[simp] theorem renumberAll_eq_map (trees : List Schema) :
    renumberAll offset trees = trees.map (renumber offset) := by
  induction trees with
  | nil => rfl
  | cons tree trees ih => rw [renumberAll, ih, List.map_cons]

@[simp] theorem renumber_absent : renumber offset .absent = .absent := rfl

@[simp] theorem isGroup_renumber (tree : Schema) :
    (tree.renumber offset).isGroup = tree.isGroup := by
  cases tree <;> rfl

theorem splice_renumber (tree : Schema) :
    (tree.renumber offset).splice = tree.splice.map (renumber offset) := by
  cases tree <;> simp [renumber, splice]

theorem groupItems_renumber (tree : Schema) :
    (tree.renumber offset).groupItems = tree.groupItems.map (renumber offset) := by
  cases tree <;> simp [renumber, groupItems]

/-- A place that may be empty is empty in the renumbered trees too. -/
theorem getD_renumber (trees : List Schema) (i : Nat) :
    (trees.map (renumber offset)).getD i .absent = (trees.getD i .absent).renumber offset := by
  rw [List.getD_eq_getElem?_getD, List.getD_eq_getElem?_getD, List.getElem?_map]
  cases trees[i]? <;> rfl

theorem headD_renumber (trees : List Schema) :
    (trees.map (renumber offset)).headD .absent = (trees.headD .absent).renumber offset := by
  cases trees <;> rfl

theorem getLastD_renumber (trees : List Schema) :
    (trees.map (renumber offset)).getLastD .absent =
      (trees.getLastD .absent).renumber offset := by
  rw [List.getLastD_eq_getLast?, List.getLastD_eq_getLast?, List.getLast?_map]
  cases trees.getLast? <;> rfl

end Schema

namespace Lowering

open Schema (renumber renumberAll_eq_map isGroup_renumber splice_renumber groupItems_renumber
  getD_renumber headD_renumber getLastD_renumber)

/-- The state with a counter that is larger by an offset. -/
def State.shift (s : State) (offset : Int) : State := { s with nextId := s.nextId + offset }

/-- An outcome in which all numbers are larger by an offset. -/
def renumbered (offset : Int) (run : Except LoweringError Schema × State) :
    Except LoweringError Schema × State :=
  (run.1.map (renumber offset), run.2.shift offset)

variable (offset : Int)

theorem State.advance_shift (s : State) (takes : Bool) :
    (s.shift offset).advance takes = (s.advance takes).shift offset := by
  cases takes with
  | false => rfl
  | true => simp [advance, shift, Int.add_right_comm]

/-! ### One site -/

namespace Site

variable {verbose : Bool}

theorem spliceAll_renumber (results : List Schema) :
    spliceAll (results.map (renumber offset)) = (spliceAll results).map (renumber offset) := by
  induction results with
  | nil => rfl
  | cons r results ih => simp [ih, splice_renumber]

theorem chainItems_renumber (results : List Schema) :
    chainItems (results.map (renumber offset)) = (chainItems results).map (renumber offset) := by
  cases results with
  | nil => rfl
  | cons stream operands => simp [chainItems, groupItems_renumber, spliceAll_renumber]

theorem numbersLast_renumber (site : Site) (inChain : Bool) (results : List Schema) :
    site.numbersLast inChain (results.map (renumber offset)) =
      site.numbersLast inChain results := by
  cases site with
  | loopInit init position => cases results <;> simp [numbersLast]
  | _ => rfl

section Tables

-- the tables of the scheme, which in this section stand for single sites only
attribute [local simp] exprResult stmtResult declResult varResult loopInitResult commaMessage
  renumber getD_renumber spliceAll_renumber chainItems_renumber splice_renumber
attribute [-simp] List.getD_eq_getElem?_getD

theorem exprResult_renumber (node : Node) (inChain : Bool) (id : Int) (results : List Schema) :
    exprResult inChain (id + offset) (results.map (renumber offset)) node =
      (exprResult inChain id results node).renumber offset := by
  cases node with
  | reference name declared position =>
      simp only [exprResult]
      split
      · rfl
      · split <;> rfl
      · rfl
  | binary opcode lhs rhs position =>
      simp only [exprResult]
      split <;> simp
  | operatorCall operator args position =>
      simp only [exprResult]
      split
      · split <;> simp
      all_goals simp
  | call callee args position => cases callee <;> simp
  | _ => simp

theorem stmtResult_renumber (node : Node) (id : Int) (results : List Schema) :
    stmtResult (id + offset) (results.map (renumber offset)) node =
      (stmtResult id results node).renumber offset := by
  cases node with
  | declStmt decls position => rcases decls with _ | ⟨d, _ | ⟨d', ds⟩⟩ <;> simp
  | _ => simp [rejected?]

theorem declResult_renumber (node : Node) (id : Int) (results : List Schema) :
    declResult (id + offset) (results.map (renumber offset)) node =
      (declResult id results node).renumber offset := by
  cases node with
  | function name resultType params body isDefinition position =>
      simp only [declResult, renumber, renumberAll_eq_map, headD_renumber, getLastD_renumber,
        List.map_tail, List.map_dropLast]
  | record name members isImplicit position => cases isImplicit <;> simp
  | _ => simp

/-- One site makes the renumbered result of renumbered parts. -/
theorem result_renumber (site : Site) (inChain : Bool) (id : Int) (results : List Schema) :
    site.result inChain (id + offset) (results.map (renumber offset)) =
      (site.result inChain id results).renumber offset := by
  cases site with
  | expr node => exact exprResult_renumber offset node inChain id results
  | stmt node => exact stmtResult_renumber offset node id results
  | decl node => exact declResult_renumber offset node id results
  | var v =>
      have hinit : singleNode ((results.getD 1 .absent).renumber offset) =
          (singleNode (results.getD 1 .absent)).renumber offset := by
        rw [singleNode, singleNode, isGroup_renumber]
        split <;> rfl
      simp [result, hinit]
  | loopInit init position =>
      simp only [result, loopInitResult, getD_renumber, isGroup_renumber]
      split <;> rfl
  | type name depth => cases depth <;> simp [result]
  | _ => simp [result]

end Tables

/-! ### All sites -/

theorem enter_shift (site : Site) (s : State) :
    site.enter verbose (s.shift offset) = (site.enter verbose s).shift offset := by
  rw [enter, enter, State.advance_shift]
  rfl

/-- Sites in order give renumbered results if single sites do. -/
theorem lowerAll_shift {sites : List Site}
    (h : ∀ site ∈ sites, ∀ s : State,
      site.lower verbose (s.shift offset) = renumbered offset (site.lower verbose s))
    (s : State) :
    lowerAll verbose sites (s.shift offset) =
      ((lowerAll verbose sites s).1.map (List.map (renumber offset)),
        (lowerAll verbose sites s).2.shift offset) := by
  induction sites generalizing s with
  | nil => rfl
  | cons site sites ih =>
      have hsites := ih fun other hother => h other (List.mem_cons_of_mem _ hother)
      rw [lowerAll_cons_apply, lowerAll_cons_apply, h site (List.mem_cons_self ..) s, renumbered]
      rcases site.lower verbose s with ⟨e | r, after⟩
      · rfl
      · simp only [Except.map, hsites after]
        rcases lowerAll verbose sites after with ⟨e | rs, last⟩ <;> rfl

theorem lowerParts_shift {site : Site}
    (h : ∀ s : State, lowerAll verbose site.parts (s.shift offset) =
      ((lowerAll verbose site.parts s).1.map (List.map (renumber offset)),
        (lowerAll verbose site.parts s).2.shift offset)) (s : State) :
    site.lowerParts verbose (s.shift offset) =
      ((site.lowerParts verbose s).1.map (List.map (renumber offset)),
        (site.lowerParts verbose s).2.shift offset) := by
  cases hchain : site.isChain with
  | false =>
      rw [lowerParts_of_not_isChain hchain]
      exact h s
  | true =>
      rw [lowerParts_of_isChain hchain, Lower.withinChain_apply, Lower.withinChain_apply]
      have hinside := h { s with chainActive := true }
      have hstart : { s.shift offset with chainActive := true } =
          State.shift { s with chainActive := true } offset := rfl
      have hflag : (s.shift offset).chainActive = s.chainActive := rfl
      rw [hstart, hinside, hflag]
      cases s.chainActive <;> rfl

/-- One step: a site gives a renumbered result if its parts do. -/
theorem step_shift {site : Site}
    (h : ∀ part ∈ site.parts, ∀ s : State,
      part.lower verbose (s.shift offset) = renumbered offset (part.lower verbose s))
    (s : State) : site.step verbose (s.shift offset) = renumbered offset (site.step verbose s) := by
  rw [step, step]
  cases site.offence? with
  | some e => rfl
  | none =>
      simp only [enter_shift, lowerParts_shift offset (lowerAll_shift offset h)]
      rcases site.lowerParts verbose (site.enter verbose s) with ⟨e | results, after⟩
      · rfl
      · have hid : (if site.numbersFirst then (s.shift offset).nextId
              else (after.shift offset).nextId) =
            (if site.numbersFirst then s.nextId else after.nextId) + offset := by
          split <;> rfl
        have hflag : (s.shift offset).chainActive = s.chainActive := rfl
        simp only [Except.map, renumbered, hid, hflag, result_renumber, numbersLast_renumber,
          State.advance_shift]

/-- **A lowering does not depend on where its counter starts.** -/
theorem lower_shift (site : Site) (s : State) :
    site.lower verbose (s.shift offset) = renumbered offset (site.lower verbose s) := by
  induction site using Site.induction generalizing s with
  | h site ih =>
      rw [lower_eq_step, lower_eq_step]
      exact step_shift offset (fun part hpart s => ih part hpart s) s

end Site

/-! ### Programs one after the other -/

/-- The statements of a document. -/
def documentStatements : Schema → List Schema
  | .document _ statements => statements
  | _ => []

variable (verbose : Bool)

theorem lowerDecls_append (decls others : List Node) :
    lowerDecls verbose (decls ++ others) = do
      let statements ← lowerDecls verbose decls
      let more ← lowerDecls verbose others
      return statements ++ more := by
  simp [Site.lowerDecls_eq, Site.lowerAll_append, Site.spliceAll]

theorem lowerUnit_apply_eq (decls : List Node) (s : State) :
    lowerUnit verbose decls s =
      match lowerDecls verbose decls { s with nextId := s.nextId + 1 } with
      | (.error e, after) => (.error e, after)
      | (.ok statements, after) => (.ok (.document s.nextId statements), after) := by
  simp only [lowerUnit, Lower.bind_apply, Lower.newId_apply]
  rcases lowerDecls verbose decls { s with nextId := s.nextId + 1 } with ⟨e | statements, after⟩ <;>
    rfl

/-- The document of a program has the first number. -/
theorem eq_document_of_lowerProgram {decls : List Node} {document : Schema}
    (h : (lowerProgram verbose decls).1 = .ok document) :
    ∃ statements, document = .document 0 statements := by
  have hrun : (lowerProgram verbose decls).1 = (lowerUnit verbose decls {}).1 := rfl
  rw [hrun, lowerUnit_apply_eq] at h
  rcases hdecls : lowerDecls verbose decls { nextId := 1 } with ⟨e | statements, after⟩
  · simp [hdecls] at h
  · simp only [Int.zero_add, hdecls, Except.ok.injEq] at h
    exact ⟨statements, h.symm⟩

/-- The declarations of two programs in one: those of the second are lowered as a program of their
own, with a counter that is set back by the number of the document which they do not get. -/
theorem lowerUnit_append (decls others : List Node) (s : State) :
    lowerUnit verbose (decls ++ others) s =
      match lowerUnit verbose decls s with
      | (.error e, after) => (.error e, after)
      | (.ok first, after) =>
        match lowerUnit verbose others { after with nextId := after.nextId - 1 } with
        | (.error e, last) => (.error e, last)
        | (.ok second, last) =>
          (.ok (.document s.nextId (documentStatements first ++ documentStatements second)),
            last) := by
  simp only [lowerUnit_apply_eq, lowerDecls_append, Lower.bind_apply]
  rcases lowerDecls verbose decls { s with nextId := s.nextId + 1 } with ⟨e | statements, after⟩
  · rfl
  · have hback : { after with nextId := after.nextId - 1 + 1 } = after := by
      rw [Int.sub_add_cancel]
    simp only [hback]
    rcases lowerDecls verbose others after with ⟨e | more, last⟩ <;> rfl

/-- A program from a later counter: the same outcome as from a fresh state, renumbered. -/
theorem lowerUnit_from (decls : List Node) {s : State} (hflag : s.chainActive = false) :
    (lowerUnit verbose decls s).1 =
      (lowerProgram verbose decls).1.map (renumber s.nextId) := by
  have hstart : s.Agrees (State.shift {} s.nextId) := ⟨(Int.zero_add _).symm, hflag⟩
  have hagree := (Site.agree_lower verbose verbose (.unit decls) hstart).1
  rw [Site.lower_shift] at hagree
  exact hagree

/-- **The document of two programs one after the other.** -/
theorem lowerProgram_append (decls others : List Node) :
    (lowerProgram verbose (decls ++ others)).1 =
      match lowerUnit verbose decls {} with
      | (.error e, _) => .error e
      | (.ok first, after) => (lowerProgram verbose others).1.map fun second =>
        .document 0 (documentStatements first ++
          (documentStatements second).map (renumber (after.nextId - 1))) := by
  have hrun : (lowerProgram verbose (decls ++ others)).1 =
      (lowerUnit verbose (decls ++ others) {}).1 := rfl
  rw [hrun, lowerUnit_append]
  have hkeeps := (Site.keeps_lower verbose (.unit decls) {}).chainActive_eq
  rw [Site.lower_unit] at hkeeps
  rcases hfirst : lowerUnit verbose decls {} with ⟨e | first, after⟩
  · rfl
  · rw [hfirst] at hkeeps
    have hothers := lowerUnit_from verbose others
      (s := { after with nextId := after.nextId - 1 }) hkeeps
    simp only at hothers ⊢
    rcases hsecond : lowerUnit verbose others { after with nextId := after.nextId - 1 } with
      ⟨e | second, last⟩
    · rw [hsecond] at hothers
      cases hprogram : (lowerProgram verbose others).1 <;> simp_all [Except.map]
    · rw [hsecond] at hothers
      cases hprogram : (lowerProgram verbose others).1 with
      | error e => simp [hprogram, Except.map] at hothers
      | ok document =>
          obtain ⟨statements, rfl⟩ := eq_document_of_lowerProgram verbose hprogram
          simp only [hprogram, Except.map, Except.ok.injEq] at hothers
          simp [hothers, renumber, documentStatements, Except.map]

/-- Exactly which documents two programs in one have. -/
theorem lowerProgram_append_eq_ok_iff (decls others : List Node) (document : Schema) :
    (lowerProgram verbose (decls ++ others)).1 = .ok document ↔
      ∃ first second after,
        lowerUnit verbose decls {} = (.ok (.document 0 first), after) ∧
        (lowerProgram verbose others).1 = .ok (.document 0 second) ∧
        document = .document 0 (first ++ second.map (renumber (after.nextId - 1))) := by
  rw [lowerProgram_append]
  constructor
  · intro h
    rcases hdecls : lowerUnit verbose decls {} with ⟨e | first, after⟩
    · simp [hdecls] at h
    · obtain ⟨statements, rfl⟩ :=
        eq_document_of_lowerProgram verbose (congrArg Prod.fst hdecls)
      cases hothers : (lowerProgram verbose others).1 with
      | error e => simp [hdecls, hothers, Except.map] at h
      | ok second =>
          obtain ⟨more, rfl⟩ := eq_document_of_lowerProgram verbose hothers
          simp only [hdecls, hothers, Except.map, Except.ok.injEq] at h
          exact ⟨statements, more, after, rfl, rfl, h.symm⟩
  · rintro ⟨first, second, after, hdecls, hothers, rfl⟩
    rw [hdecls, hothers]
    rfl

/-- Two programs in one have a document exactly if both have one. -/
theorem exists_lowerProgram_append_iff (decls others : List Node) :
    (∃ document, (lowerProgram verbose (decls ++ others)).1 = .ok document) ↔
      (∃ document, (lowerProgram verbose decls).1 = .ok document) ∧
        ∃ document, (lowerProgram verbose others).1 = .ok document := by
  simp only [lowerProgram_append_eq_ok_iff]
  constructor
  · rintro ⟨_, first, second, after, hdecls, hothers, -⟩
    exact ⟨⟨_, congrArg Prod.fst hdecls⟩, _, hothers⟩
  · rintro ⟨⟨first, hdecls⟩, second, hothers⟩
    obtain ⟨statements, rfl⟩ := eq_document_of_lowerProgram verbose hdecls
    obtain ⟨more, rfl⟩ := eq_document_of_lowerProgram verbose hothers
    exact ⟨_, statements, more, (lowerUnit verbose decls {}).2, Prod.ext hdecls rfl, hothers, rfl⟩

/-- **A lowering does not depend on where its counter starts.**  Whatever is lowered, as an
expression, a statement, a declaration or a program, and whatever the flag and the log: from the
counter `m` the outcome is that from the counter `n` with all numbers larger by `m - n`, the counter
at the end included, and the same failure and log.

Hence two programs in one have a document exactly if both have one, and it holds the statements of
the first followed by those of the second, under numbers that are larger by what the counter was
after the first, less the number of the document. -/
theorem renumbering_of_lowering (verbose : Bool) :
    (∀ (node : Node) (decls : List Node) (n m : Int) (inChain : Bool) (log : List String),
      lowerExpr node ⟨m, inChain, log⟩ = renumbered (m - n) (lowerExpr node ⟨n, inChain, log⟩) ∧
      lowerStmt verbose node ⟨m, inChain, log⟩ =
        renumbered (m - n) (lowerStmt verbose node ⟨n, inChain, log⟩) ∧
      lowerDecl verbose node ⟨m, inChain, log⟩ =
        renumbered (m - n) (lowerDecl verbose node ⟨n, inChain, log⟩) ∧
      lowerUnit verbose decls ⟨m, inChain, log⟩ =
        renumbered (m - n) (lowerUnit verbose decls ⟨n, inChain, log⟩)) ∧
    ∀ decls others : List Node,
      ((∃ document, (lowerProgram verbose (decls ++ others)).1 = .ok document) ↔
        (∃ document, (lowerProgram verbose decls).1 = .ok document) ∧
          ∃ document, (lowerProgram verbose others).1 = .ok document) ∧
      ∀ document, (lowerProgram verbose (decls ++ others)).1 = .ok document ↔
        ∃ first second after,
          lowerUnit verbose decls {} = (.ok (.document 0 first), after) ∧
          (lowerProgram verbose others).1 = .ok (.document 0 second) ∧
          document = .document 0 (first ++ second.map (renumber (after.nextId - 1))) := by
  refine ⟨fun node decls n m inChain log => ?_, fun decls others =>
    ⟨exists_lowerProgram_append_iff verbose decls others,
      lowerProgram_append_eq_ok_iff verbose decls others⟩⟩
  have hshift : ∀ site : Site, site.lower verbose ⟨m, inChain, log⟩ =
      renumbered (m - n) (site.lower verbose ⟨n, inChain, log⟩) := by
    intro site
    have hm : (⟨m, inChain, log⟩ : State) = State.shift ⟨n, inChain, log⟩ (m - n) := by
      simp only [State.shift, State.mk.injEq, and_true]
      omega
    rw [hm, Site.lower_shift]
  exact ⟨hshift (.expr node), hshift (.stmt node), hshift (.decl node), hshift (.unit decls)⟩

end Lowering

end TeachingTree

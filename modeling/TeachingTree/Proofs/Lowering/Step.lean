/-
**One equation for the lowering of every site.**

The lowering of every site follows the scheme of `TeachingTree/Proofs/Lowering/Scheme.lean`.  The
proof goes through the rules one by one; with it a statement about all lowerings takes one case: it
is shown of the scheme, by `Site.induction`, and what the tables of the scheme say of single sites
enters through lemmas of their own.

Main results:

* `Lower.bind_apply` — an action and what follows it, on a state;
* `Site.lowerArgs_eq`, `Site.lowerStmts_eq`, `Site.lowerDecls_eq`, `Site.lowerMembers_eq` — lists
  of nodes are lists of sites whose results are spliced;
* `Site.lower_eq_step` — **the lowering of every site follows the scheme**;
* `Site.lower_of_offence`, `Site.lower_eq_ok_iff` — what a stop and a success look like.
-/

import TeachingTree.Proofs.Lowering.Scheme

set_option relaxedAutoImplicit false
set_option autoImplicit false

namespace TeachingTree

/-! ### Outcomes -/

/-- An outcome that can be looked at is a success. -/
theorem exists_ok_of_map {ε α β : Type} {outcome : Except ε α} {f : α → β} {b : β}
    (h : outcome.toOption.map f = some b) : ∃ a, outcome = .ok a ∧ f a = b := by
  cases outcome with
  | error e => cases h
  | ok a => exact ⟨a, rfl, Option.some.inj h⟩

theorem exists_ok_of_isSome {ε α : Type} {outcome : Except ε α}
    (h : outcome.toOption.isSome = true) : ∃ a, outcome = .ok a := by
  cases outcome with
  | error e => cases h
  | ok a => exact ⟨a, rfl⟩

/-! ### Actions on states -/

namespace Lower

variable {α β : Type}

theorem bind_apply (x : Lower α) (f : α → Lower β) (s : Lowering.State) :
    (x >>= f) s =
      match x s with
      | (.ok a, after) => f a after
      | (.error e, after) => (.error e, after) := by
  simp only [bind, ExceptT.bind, ExceptT.mk, ExceptT.bindCont, StateT.bind]
  rcases x s with ⟨e | a, after⟩ <;> rfl

theorem map_apply (f : α → β) (x : Lower α) (s : Lowering.State) :
    (f <$> x) s =
      match x s with
      | (.ok a, after) => (.ok (f a), after)
      | (.error e, after) => (.error e, after) := by
  rw [map_eq_pure_bind, bind_apply]
  rfl

/-- What an action ends in is a pair, also where its type hides that. -/
@[simp] theorem outcome_eq_iff {x y : Except LoweringError α} {s t : Lowering.State} :
    @Eq (Id (Except LoweringError α × Lowering.State)) (x, s) (y, t) ↔ x = y ∧ s = t :=
  Prod.mk.injEq .. ▸ Iff.rfl

@[simp] theorem pure_apply (a : α) (s : Lowering.State) : (pure a : Lower α) s = (.ok a, s) := rfl

@[simp] theorem newId_apply (s : Lowering.State) :
    newId s = (.ok s.nextId, { s with nextId := s.nextId + 1 }) := rfl

@[simp] theorem log_apply (line : String) (s : Lowering.State) :
    log line s = (.ok (), { s with log := s.log ++ [line] }) := rfl

@[simp] theorem stop_apply (e : LoweringError) (s : Lowering.State) :
    (stop e : Lower α) s = (.error e, s) := rfl

@[simp] theorem inChain_apply (s : Lowering.State) : inChain s = (.ok s.chainActive, s) := rfl

theorem withinChain_apply (x : Lower α) (s : Lowering.State) :
    withinChain x s =
      ((x { s with chainActive := true }).1,
        if s.chainActive then (x { s with chainActive := true }).2
        else { (x { s with chainActive := true }).2 with chainActive := false }) := rfl

end Lower

namespace Lowering

/-! ### Operators -/

theorem operatorUse_of_chain {operator : Option String} {callName : String}
    (h : operator.bind streamCall? = some callName) (operands : Nat) :
    operatorUse operator operands = .chain callName := by
  simp only [operatorUse, h]

theorem operatorUse_subscript : operatorUse (some "[]") 2 = .binary "[]" := rfl

theorem operatorUse_of_isBinaryOperator {name : String} (hchain : streamCall? name = none)
    (hsub : name ≠ "[]") (hbin : isBinaryOperator name = true) :
    operatorUse (some name) 2 = if name = "," then .comma else .binary (binaryOpcode name) := by
  simp only [operatorUse, Option.bind_some, hchain, if_neg hsub, if_pos hbin]

theorem operatorUse_of_not_isBinaryOperator {name : String} (hchain : streamCall? name = none)
    (hsub : name ≠ "[]") (hbin : ¬ isBinaryOperator name = true) :
    operatorUse (some name) 2 = .other := by
  simp only [operatorUse, Option.bind_some, hchain, if_neg hsub, if_neg hbin]

theorem operatorUse_of_not_pair {operator : Option String} {operands : Nat}
    (hchain : operator.bind streamCall? = none) (h : operator = none ∨ operands ≠ 2) :
    operatorUse operator operands = .other := by
  simp only [operatorUse, hchain]
  split
  · simp at h
  · rfl

/-- An operator that makes a node with two operands has two. -/
theorem exists_pair_of_operatorUse_binary {operator : Option String} {args : List Node}
    {opcode : String} (h : operatorUse operator args.length = .binary opcode) :
    ∃ lhs rhs, args = [lhs, rhs] := by
  have hlength : args.length = 2 := by
    simp only [operatorUse] at h
    split at h
    · simp at h
    · split at h
      · assumption
      · simp at h
  match args, hlength with
  | [lhs, rhs], _ => exact ⟨lhs, rhs, rfl⟩

namespace Site

/-! ### Single sites and lists of sites -/

variable (verbose : Bool)

@[simp] theorem lower_expr (node : Node) : (expr node).lower verbose = lowerExpr node := rfl

@[simp] theorem lower_stmt (node : Node) :
    (stmt node).lower verbose = lowerStmt verbose node := rfl

@[simp] theorem lower_decl (node : Node) :
    (decl node).lower verbose = lowerDecl verbose node := rfl

@[simp] theorem lower_unit (decls : List Node) :
    (unit decls).lower verbose = lowerUnit verbose decls := rfl

@[simp] theorem lower_var (v : Variable) : (var v).lower verbose = lowerVariable v := rfl

@[simp] theorem lower_field (f : Field) : (field f).lower verbose = lowerField f := rfl

@[simp] theorem lower_key (f : Field) : (key f).lower verbose = lowerFieldKey f := rfl

@[simp] theorem lower_ofType (declared : SourceType) :
    (ofType declared).lower verbose = lowerType declared := rfl

@[simp] theorem lower_ofCondition (construct : String) (declared : Option Variable)
    (condition : Node) :
    (ofCondition construct declared condition).lower verbose =
      lowerCondition construct declared (lowerExpr condition) := by
  cases declared <;> rfl

@[simp] theorem lower_block (body : Node) :
    (block body).lower verbose = (do
      let result ← lowerStmt verbose body
      makeBlock result) := rfl

@[simp] theorem lower_loopInit (init : Node) (position : Position) :
    (loopInit init position).lower verbose = (do
      let result ← lowerStmt verbose init
      lowerForInit result position) := rfl

@[simp] theorem lower_methodCall (method : String) (args : List Node) (position : Position) :
    (methodCall method args position).lower verbose = (do
      let id ← Lower.newId
      let arguments ← lowerArgs args
      return .call id position method arguments) := rfl

@[simp] theorem spliceAll_nil : spliceAll [] = [] := rfl

@[simp] theorem spliceAll_cons (result : Schema) (results : List Schema) :
    spliceAll (result :: results) = result.splice ++ spliceAll results := rfl

/-- The arguments of a chain are among the nodes that the results contribute. -/
theorem chainItems_sublist (results : List Schema) :
    (chainItems results).Sublist (spliceAll results) := by
  cases results with
  | nil => exact List.Sublist.refl _
  | cons stream operands =>
      refine List.Sublist.append ?_ (List.Sublist.refl _)
      cases stream <;> simp [Schema.groupItems, Schema.splice]

theorem lowerArgs_eq (args : List Node) :
    lowerArgs args = spliceAll <$> lowerAll verbose (args.map .expr) := by
  induction args with
  | nil => rfl
  | cons arg args ih =>
      simp only [lowerArgs, List.map_cons, lowerAll, lower_expr, ih, map_eq_pure_bind, bind_assoc,
        pure_bind, spliceAll_cons]

theorem lowerStmts_eq (stmts : List Node) :
    lowerStmts verbose stmts = spliceAll <$> lowerAll verbose (stmts.map .stmt) := by
  induction stmts with
  | nil => rfl
  | cons stmt stmts ih =>
      simp only [lowerStmts, List.map_cons, lowerAll, lower_stmt, ih, map_eq_pure_bind, bind_assoc,
        pure_bind, spliceAll_cons]

theorem lowerDecls_eq (decls : List Node) :
    lowerDecls verbose decls = spliceAll <$> lowerAll verbose (decls.map .decl) := by
  induction decls with
  | nil => rfl
  | cons decl decls ih =>
      simp only [lowerDecls, List.map_cons, lowerAll, lower_decl, ih, map_eq_pure_bind, bind_assoc,
        pure_bind, spliceAll_cons]

theorem lowerVariables_eq (vs : List Variable) :
    lowerVariables vs = lowerAll verbose (vs.map .var) := by
  induction vs with
  | nil => rfl
  | cons v vs ih => simp only [lowerVariables, List.map_cons, lowerAll, lower_var, ih]

theorem lower_member_field (recordName : String) (f : Field) :
    (member recordName (.field f)).lower verbose = lowerField f := by
  simp [lower, lowerMembers]

theorem lowerMembers_eq (recordName : String) (members : List Node) :
    lowerMembers verbose recordName members =
      spliceAll <$> lowerAll verbose (members.map (.member recordName)) := by
  induction members with
  | nil => rfl
  | cons member members ih =>
      cases member with
      | field f =>
          simp only [lowerMembers, List.map_cons, lowerAll, lower_member_field, ih,
            map_eq_pure_bind, bind_assoc, pure_bind, spliceAll_cons, lowerField]
          rfl
      | _ =>
          simp only [lowerMembers, List.map_cons, lowerAll, lower, ih, map_eq_pure_bind,
            bind_assoc, pure_bind, spliceAll_cons]
          cases verbose <;> simp [Schema.splice_absent]

/-! ### Lowering sites in order -/

@[simp] theorem lowerAll_nil_apply (s : State) : lowerAll verbose [] s = (.ok [], s) := rfl

theorem lowerAll_cons_apply (site : Site) (sites : List Site) (s : State) :
    lowerAll verbose (site :: sites) s =
      match site.lower verbose s with
      | (.error e, after) => (.error e, after)
      | (.ok result, after) =>
        match lowerAll verbose sites after with
        | (.error e, last) => (.error e, last)
        | (.ok results, last) => (.ok (result :: results), last) := by
  rw [lowerAll, Lower.bind_apply]
  rcases site.lower verbose s with ⟨e | result, after⟩
  · rfl
  · simp only [Lower.bind_apply]
    rcases lowerAll verbose sites after with ⟨e | results, last⟩ <;> rfl

theorem lowerAll_append (sites others : List Site) :
    lowerAll verbose (sites ++ others) = do
      let results ← lowerAll verbose sites
      let more ← lowerAll verbose others
      return results ++ more := by
  induction sites with
  | nil => simp [lowerAll]
  | cons site sites ih => simp [lowerAll, ih]

/-- The scheme for a site that takes its number first. -/
theorem eq_step_of_numbersFirst {site : Site} {action : Lower Schema}
    (hoffence : site.offence? = none) (hchain : site.isChain = false)
    (hnotes : site.notes verbose = []) (hfirst : site.numbersFirst = true)
    (hlast : ∀ b results, site.numbersLast b results = false)
    (haction : ∀ b, action = do
      let id ← Lower.newId
      let results ← lowerAll verbose site.parts
      return site.result b id results)
    (s : State) : action s = site.step verbose s := by
  rw [haction s.chainActive]
  rcases h : lowerAll verbose site.parts { s with nextId := s.nextId + 1 } with
    ⟨e | results, after⟩ <;>
      simp [step, enter, lowerParts, State.advance, Lower.bind_apply, Lower.map_apply, hoffence,
        hchain, hnotes, hfirst, hlast, h]

/-- The scheme for a site that takes over the result of its only part. -/
theorem eq_step_of_single {site part : Site} (hoffence : site.offence? = none)
    (hchain : site.isChain = false) (hnotes : site.notes verbose = [])
    (hfirst : site.numbersFirst = false) (hlast : ∀ b r, site.numbersLast b [r] = false)
    (hparts : site.parts = [part]) (hresult : ∀ b id r, site.result b id [r] = r) (s : State) :
    part.lower verbose s = site.step verbose s := by
  have henter : site.enter verbose s = s := by simp [enter, State.advance, hfirst, hnotes]
  rcases h : part.lower verbose s with ⟨e | r, after⟩ <;>
    simp [step, henter, lowerParts, lowerAll_cons_apply, State.advance, hoffence, hchain, hparts,
      hlast, hresult, h]

/-! ### Expressions -/

section Equation

-- the tables of the scheme, which in this section stand for single sites only
attribute [local simp] step enter State.advance lowerParts parts exprParts offence? hasExprRule
  hasDeclRule notes isChain OperatorUse.isChain OperatorUse.lowersOperands numbersFirst numbersLast
  exprNumbersLast result exprResult stmtResult declResult varResult loopInitResult commaMessage
  rejected? makeLiteral makeIdentifier makeMessage makeBinary makeBlock lowerAll_cons_apply
  Lower.bind_apply Lower.map_apply

theorem lowerExpr_binary (opcode : String) (lhs rhs : Node) (position : Position) (s : State) :
    lowerExpr (.binary opcode lhs rhs position) s =
      (expr (.binary opcode lhs rhs position)).step verbose s := by
  by_cases hc : opcode = ","
  · simp [lowerExpr, lowerBinary, hc]
  · rcases h : lowerExpr lhs s with ⟨e | l, after⟩
    · simp [lowerExpr, lowerBinary, hc, h]
    · rcases h' : lowerExpr rhs after with ⟨e | r, last⟩ <;>
        simp [lowerExpr, lowerBinary, hc, h, h']

theorem lowerExpr_subscript (base index : Node) (position : Position) (s : State) :
    lowerExpr (.subscript base index position) s =
      (expr (.subscript base index position)).step verbose s := by
  rcases h : lowerExpr base s with ⟨e | b, after⟩
  · simp [lowerExpr, lowerSubscript, h]
  · rcases h' : lowerExpr index after with ⟨e | i, last⟩ <;>
      simp [lowerExpr, lowerSubscript, h, h']

/-- An overloaded operator with two operands, outside chains. -/
theorem lowerExpr_pair {name : String} (hchain : streamCall? name = none) (lhs rhs : Node)
    (position : Position) (s : State) :
    lowerExpr (.operatorCall (some name) [lhs, rhs] position) s =
      (expr (.operatorCall (some name) [lhs, rhs] position)).step verbose s := by
  have hbind : (some name).bind streamCall? = none := hchain
  rw [lowerExpr.eq_def]
  simp only [hbind]
  by_cases hsub : name = "[]"
  · subst hsub
    have h := lowerExpr_subscript verbose lhs rhs position s
    rw [lowerExpr] at h
    rw [if_pos rfl, h]
    simp [operatorUse_subscript]
  · by_cases hbin : isBinaryOperator name = true
    · have huse := operatorUse_of_isBinaryOperator hchain hsub hbin
      have h := lowerExpr_binary verbose name lhs rhs position s
      rw [lowerExpr] at h
      rw [if_neg hsub, if_pos hbin, h]
      by_cases hcomma : name = ","
      · subst hcomma
        rw [if_pos rfl] at huse
        simp [huse]
      · rw [if_neg hcomma] at huse
        simp [huse, hcomma]
    · have huse := operatorUse_of_not_isBinaryOperator hchain hsub hbin
      rw [if_neg hsub, if_neg hbin]
      simp [lowerOtherOperator, huse, operatorNote]

theorem lowerExpr_apply (node : Node) (s : State) :
    lowerExpr node s = (expr node).step verbose s := by
  cases node with
  | absent => simp [lowerExpr]
  | reference name declared position =>
    simp only [lowerExpr, lowerReference]
    cases h : declared.kind <;> simp [h]
    split <;> simp
  | unary opcode operand isLeading position =>
      rcases h : lowerExpr operand s with ⟨e | o, after⟩ <;> simp [lowerExpr, h]
  | binary opcode lhs rhs position => exact lowerExpr_binary verbose opcode lhs rhs position s
  | member base f position =>
      rcases h : lowerExpr base s with ⟨e | b, after⟩
      · simp [lowerExpr, h]
      · rcases h' : lowerFieldKey f after with ⟨e | r, last⟩ <;> simp [lowerExpr, h, h']
  | subscript base index position => exact lowerExpr_subscript verbose base index position s
  | operatorCall operator args position =>
      cases hchain : operator.bind streamCall? with
      | some callName =>
          have huse := operatorUse_of_chain hchain args.length
          have hargs : lowerExpr (.operatorCall operator args position) =
              lowerChain callName (chainItems <$> lowerAll verbose (args.map expr)) position := by
            cases args with
            | nil => simp only [lowerExpr, hchain]; rfl
            | cons stream operands =>
                rw [lowerExpr.eq_def]
                simp only [hchain, lowerArgs_eq verbose, List.map_cons, lowerAll, lower_expr,
                  map_eq_pure_bind, bind_assoc, pure_bind, chainItems]
          rcases h : lowerAll verbose (args.map expr) { s with chainActive := true } with
            ⟨e | results, after⟩ <;> cases hs : s.chainActive <;>
              simp [hargs, lowerChain, Lower.withinChain, huse, h, hs]
      | none =>
          by_cases hpair : ∃ name lhs rhs, operator = some name ∧ args = [lhs, rhs]
          · obtain ⟨name, lhs, rhs, rfl, rfl⟩ := hpair
            exact lowerExpr_pair verbose hchain lhs rhs position s
          · have huse : operatorUse operator args.length = .other := by
              refine operatorUse_of_not_pair hchain ?_
              cases operator with
              | none => exact .inl rfl
              | some name =>
                  refine .inr fun hlength => ?_
                  match args, hlength with
                  | [lhs, rhs], _ => exact hpair ⟨name, lhs, rhs, rfl, rfl⟩
            have hlower : lowerExpr (.operatorCall operator args position) =
                lowerOtherOperator operator args.length position := by
              rw [lowerExpr.eq_def]
              simp only [hchain]
              split
              · exact absurd ⟨_, _, _, rfl, rfl⟩ hpair
              · rfl
            cases operator <;> simp [hlower, lowerOtherOperator, huse, operatorNote]
  | methodCall method receiver args position =>
      rcases h : lowerArgs args { s with nextId := s.nextId + 1 } with ⟨e | b, after⟩
      · simp [lowerExpr, h]
      · rcases h' : lowerExpr receiver after with ⟨e | i, last⟩ <;>
          simp [lowerExpr, h, h']
  | call callee args position =>
      cases callee with
      | none => simp [lowerExpr, lowerUnresolvedCall]
      | some callee =>
          refine eq_step_of_numbersFirst verbose rfl rfl rfl rfl (fun _ _ => rfl) (fun _ => ?_) s
          simp [lowerExpr, lowerArgs_eq verbose]
  | _ => simp [lowerExpr]

/-! ### Statements -/

/-- A node that is no statement is lowered as an expression. -/
theorem lowerStmt_of_expr {node : Node} (hlower : lowerStmt verbose node = lowerExpr node)
    (hrejected : rejected? node = none) (hparts : (stmt node).parts = [expr node])
    (hfirst : (stmt node).numbersFirst = false) (hresult : ∀ id r, stmtResult id [r] node = r)
    (s : State) : lowerStmt verbose node s = (stmt node).step verbose s := by
  have hlast : ∀ b r, numbersLast b [r] (stmt node) = false := by
    intro b r
    rw [numbersLast, hrejected, Option.isSome_none]
  rw [hlower, ← lower_expr verbose]
  exact eq_step_of_single verbose rfl rfl rfl hfirst hlast hparts (fun _ => hresult) s

theorem lowerStmt_apply (node : Node) (s : State) :
    lowerStmt verbose node s = (stmt node).step verbose s := by
  cases node with
  | absent => simp [lowerStmt, stmtParts]
  | compound body position =>
      simp only [lowerStmt, lowerStmts_eq]
      rcases h : lowerAll verbose (body.map stmt) s with ⟨e | results, after⟩ <;>
        simp [stmtParts, h]
  | ifStmt condition thenBranch elseBranch declared position =>
      refine eq_step_of_numbersFirst verbose rfl rfl rfl rfl (fun _ _ => rfl) (fun _ => ?_) s
      cases h : elseBranch.isAbsent <;>
        simp only [lowerStmt, parts, stmtParts, lowerAll, lower_block, lower_ofCondition, h,
          bind_assoc, pure_bind, Bool.false_eq_true, if_false, if_true] <;> rfl
  | whileStmt condition body declared position =>
      refine eq_step_of_numbersFirst verbose rfl rfl rfl rfl (fun _ _ => rfl) (fun _ => ?_) s
      simp only [lowerStmt, parts, stmtParts, lowerAll, lower_block, lower_ofCondition, bind_assoc,
        pure_bind]
      rfl
  | forStmt init condition increment body position =>
      refine eq_step_of_numbersFirst verbose rfl rfl rfl rfl (fun _ _ => rfl) (fun _ => ?_) s
      simp only [lowerStmt, parts, stmtParts, lowerAll, lower_expr, lower_block, lower_loopInit,
        bind_assoc, pure_bind]
      rfl
  | returnStmt value position =>
      refine eq_step_of_numbersFirst verbose rfl rfl rfl rfl (fun _ _ => rfl) (fun _ => ?_) s
      simp only [lowerStmt, parts, stmtParts, lowerAll, lower_expr, bind_assoc, pure_bind]
      rfl
  | declStmt decls position =>
      -- a declaration alone stands for itself, and only several of them are a group
      rcases decls with _ | ⟨d, _ | ⟨d', ds⟩⟩
      · simp [lowerStmt, lowerDecls, stmtParts]
      · rw [lowerStmt]
        change (decl d).lower verbose s = _
        exact eq_step_of_single verbose rfl rfl rfl rfl (fun _ _ => rfl) rfl (fun _ _ _ => rfl) s
      · have hlower : lowerStmt verbose (.declStmt (d :: d' :: ds) position) =
            (fun results => .group (spliceAll results)) <$>
              lowerAll verbose ((d :: d' :: ds).map decl) := by
          rw [lowerStmt.eq_def]
          simp only [lowerDecls_eq, map_eq_pure_bind, bind_assoc, pure_bind]
        rw [hlower, Lower.map_apply]
        rcases h : lowerAll verbose ((d :: d' :: ds).map decl) s with ⟨e | results, after⟩ <;>
          simp [-List.map_cons, -lowerAll_cons_apply, stmtParts, h]
  | nullStmt position => simp [lowerStmt, stmtParts]
  | doStmt | breakStmt | continueStmt | gotoStmt | labelStmt | unsupportedStmt =>
      simp [lowerStmt, stmtParts]
  | _ => exact lowerStmt_of_expr verbose (by simp [lowerStmt]) rfl rfl rfl (fun _ _ => rfl) s

/-! ### Declarations -/

/-- The results of the parts of a function: its type, its parameters and its block. -/
theorem declResult_function (id : Int) (returnType block : Schema) (parameters : List Schema)
    (name : String) (resultType : SourceType) (params : List Variable) (body : Node)
    (isDefinition : Bool) (position : Position) :
    declResult id (returnType :: (parameters ++ [block]))
        (.function name resultType params body isDefinition position) =
      .function id position name returnType parameters block := by
  have hlast : (returnType :: (parameters ++ [block])).getLastD .absent = block := by
    rw [← List.cons_append, List.getLastD_concat]
  simp [declResult, hlast, -List.getLastD_eq_getLast?]

theorem lowerDecl_apply (node : Node) (s : State) :
    lowerDecl verbose node s = (decl node).step verbose s := by
  cases node with
  | function name resultType params body isDefinition position =>
      refine eq_step_of_numbersFirst verbose rfl rfl rfl rfl (fun _ _ => rfl) (fun _ => ?_) s
      cases isDefinition <;>
        simp [lowerDecl, declParts, lowerAll, lowerAll_append, lowerVariables_eq verbose, lowerStmt,
          declResult_function, -declResult]
  | var v =>
      rw [lowerDecl]
      change (var v).lower verbose s = _
      exact eq_step_of_single verbose rfl rfl rfl rfl (fun _ _ => rfl) rfl (fun _ _ _ => rfl) s
  | field f =>
      rw [lowerDecl]
      change (field f).lower verbose s = _
      exact eq_step_of_single verbose rfl rfl rfl rfl (fun _ _ => rfl) rfl (fun _ _ _ => rfl) s
  | record name members isImplicit position =>
      cases isImplicit with
      | true => simp [lowerDecl, declParts]
      | false =>
          refine eq_step_of_numbersFirst verbose rfl rfl rfl rfl (fun _ _ => rfl) (fun _ => ?_) s
          simp [lowerDecl, declParts, lowerMembers_eq]
  | method name position => simp [lowerDecl, declParts]
  | unsupportedDecl name position => cases verbose <;> simp [lowerDecl, declParts]
  | _ => simp [lowerDecl]

theorem lowerVariable_apply (v : Variable) (s : State) :
    lowerVariable v s = (var v).step verbose s := by
  refine eq_step_of_numbersFirst verbose rfl rfl rfl rfl (fun _ _ => rfl) (fun _ => ?_) s
  cases h : keepsInit v.head with
  | false => simp [lowerVariable, lowerAll, singleNode, Schema.isGroup, h]
  | true => simp [lowerVariable, lowerAll, h]

theorem lowerField_apply (f : Field) (s : State) :
    lowerField f s = (field f).step verbose s := by
  refine eq_step_of_numbersFirst verbose rfl rfl rfl rfl (fun _ _ => rfl) (fun _ => ?_) s
  simp [lowerField, lowerAll]

theorem lowerFieldKey_apply (f : Field) (s : State) :
    lowerFieldKey f s = (key f).step verbose s := by
  refine eq_step_of_numbersFirst verbose rfl rfl rfl rfl (fun _ _ => rfl) (fun _ => ?_) s
  simp [lowerFieldKey, lowerAll]

theorem lowerUnit_apply (decls : List Node) (s : State) :
    lowerUnit verbose decls s = (unit decls).step verbose s := by
  refine eq_step_of_numbersFirst verbose rfl rfl rfl rfl (fun _ _ => rfl) (fun _ => ?_) s
  simp [lowerUnit, lowerDecls_eq]

/-! ### Types -/

/-- The outermost vector is the last to be made. -/
theorem wrapVectors_succ (depth : Nat) (node : Schema) :
    wrapVectors (depth + 1) node = wrapVectors depth node >>= makeType "vector" := by
  induction depth generalizing node with
  | zero => simp [wrapVectors]
  | succ depth ih =>
      calc wrapVectors (depth + 2) node
          = makeType "vector" node >>= wrapVectors (depth + 1) := rfl
        _ = makeType "vector" node >>= fun wrapped =>
              wrapVectors depth wrapped >>= makeType "vector" := by rw [funext ih]
        _ = wrapVectors (depth + 1) node >>= makeType "vector" := by
              rw [← bind_assoc]
              rfl

theorem lower_type_succ (name : String) (depth : Nat) :
    (type name (depth + 1)).lower verbose =
      (type name depth).lower verbose >>= makeType "vector" := by
  simp only [lower, wrapVectors_succ, bind_assoc]

theorem lower_type_apply (name : String) (depth : Nat) (s : State) :
    (type name depth).lower verbose s = (type name depth).step verbose s := by
  cases depth with
  | zero => simp [lower, makeType, wrapVectors]
  | succ depth =>
      rw [lower_type_succ, Lower.bind_apply]
      rcases h : (type name depth).lower verbose s with ⟨e | inner, after⟩ <;> simp [makeType, h]

/-! ### All sites -/

/-- **The lowering of every site follows the scheme.** -/
theorem lower_eq_step (site : Site) (s : State) : site.lower verbose s = site.step verbose s := by
  cases site with
  | expr node => exact lowerExpr_apply verbose node s
  | stmt node => exact lowerStmt_apply verbose node s
  | decl node => exact lowerDecl_apply verbose node s
  | unit decls => exact lowerUnit_apply verbose decls s
  | var v => exact lowerVariable_apply verbose v s
  | field f => exact lowerField_apply verbose f s
  | key f => exact lowerFieldKey_apply verbose f s
  | type name depth => exact lower_type_apply verbose name depth s
  | member recordName node =>
      cases node with
      | field f =>
          rw [lower_member_field]
          change (field f).lower verbose s = _
          exact eq_step_of_single verbose rfl rfl rfl rfl (fun _ _ => rfl) rfl (fun _ _ _ => rfl) s
      | _ => cases verbose <;> simp [lower, lowerMembers]
  | block body =>
      rw [lower_block, Lower.bind_apply]
      rcases h : lowerStmt verbose body s with ⟨e | result, after⟩ <;> simp [h]
  | loopInit init position =>
      rw [lower_loopInit, Lower.bind_apply]
      rcases h : lowerStmt verbose init s with ⟨e | result, after⟩
      · simp [h]
      · cases hgroup : result.isGroup <;> simp [lowerForInit, h, hgroup]
  | conditionVariable construct v => simp [lower, lowerCondition]
  | methodCall method args position =>
      refine eq_step_of_numbersFirst verbose rfl rfl rfl rfl (fun _ _ => rfl) (fun _ => ?_) s
      simp [lowerArgs_eq verbose]

end Equation

/-! ### Stops and successes -/

variable {verbose}

/-- At a site that has no rule the lowering stops, and the state is as before. -/
theorem lower_of_offence {site : Site} {e : LoweringError} (h : site.offence? = some e)
    (s : State) : site.lower verbose s = (.error e, s) := by
  simp only [lower_eq_step, step, h]

/-- A success: the parts were lowered, and the site made its result from theirs. -/
theorem lower_eq_ok_iff {site : Site} {s last : State} {r : Schema} :
    site.lower verbose s = (.ok r, last) ↔
      site.offence? = none ∧ ∃ results after,
        site.lowerParts verbose (site.enter verbose s) = (.ok results, after) ∧
        r = site.result s.chainActive (if site.numbersFirst then s.nextId else after.nextId)
          results ∧
        last = after.advance (site.numbersLast s.chainActive results) := by
  rw [lower_eq_step, step]
  cases site.offence? with
  | some e => simp
  | none =>
      rcases site.lowerParts verbose (site.enter verbose s) with ⟨e | results, after⟩
      · simp
      · constructor
        · intro h
          simp only [Lower.outcome_eq_iff, Except.ok.injEq] at h
          exact ⟨rfl, results, after, rfl, h.1.symm, h.2.symm⟩
        · rintro ⟨-, results', after', h, rfl, rfl⟩
          simp only [Lower.outcome_eq_iff, Except.ok.injEq] at h
          obtain ⟨rfl, rfl⟩ := h
          rfl

theorem lowerParts_of_isChain {site : Site} (h : site.isChain = true) :
    site.lowerParts verbose = Lower.withinChain (lowerAll verbose site.parts) := by
  rw [lowerParts, if_pos h]

theorem lowerParts_of_not_isChain {site : Site} (h : site.isChain = false) :
    site.lowerParts verbose = lowerAll verbose site.parts := by
  rw [lowerParts, if_neg (by simp [h])]

/-- The parts of a site succeed when their lowering in order does, in the chain or outside: with the
flag set if it was set before, or if the site is an operator of a chain. -/
theorem exists_lowerAll_of_lowerParts {site : Site} {s after : State} {results : List Schema}
    (h : site.lowerParts verbose s = (.ok results, after)) :
    ∃ start last : State, start.nextId = s.nextId ∧ last.nextId = after.nextId ∧
      start.chainActive = (s.chainActive || site.isChain) ∧
      lowerAll verbose site.parts start = (.ok results, last) := by
  cases hchain : site.isChain with
  | false =>
      rw [lowerParts_of_not_isChain hchain] at h
      exact ⟨s, after, rfl, rfl, by rw [Bool.or_false], h⟩
  | true =>
      rw [lowerParts_of_isChain hchain, Lower.withinChain_apply, Lower.outcome_eq_iff] at h
      obtain ⟨hresults, rfl⟩ := h
      refine ⟨{ s with chainActive := true }, _, rfl, ?_, by rw [Bool.or_true],
        Prod.ext hresults rfl⟩
      split <;> rfl

theorem lowerAll_cons_eq_ok_iff {site : Site} {sites : List Site} {s last : State}
    {results : List Schema} :
    lowerAll verbose (site :: sites) s = (.ok results, last) ↔
      ∃ r rs after, site.lower verbose s = (.ok r, after) ∧
        lowerAll verbose sites after = (.ok rs, last) ∧ results = r :: rs := by
  rw [lowerAll_cons_apply]
  rcases site.lower verbose s with ⟨e | r, after⟩
  · simp
  · rcases hsites : lowerAll verbose sites after with ⟨e | rs, end_⟩
    · simp only [hsites]
      constructor
      · intro h; simp at h
      · rintro ⟨r', rs, after', h₁, h₂, -⟩
        simp only [Lower.outcome_eq_iff, Except.ok.injEq] at h₁
        rw [← h₁.2, hsites] at h₂
        simp at h₂
    · simp only [hsites]
      constructor
      · intro h
        simp only [Lower.outcome_eq_iff, Except.ok.injEq] at h
        exact ⟨r, rs, after, rfl, by rw [hsites, h.2], h.1.symm⟩
      · rintro ⟨r', rs', after', h₁, h₂, rfl⟩
        simp only [Lower.outcome_eq_iff, Except.ok.injEq] at h₁
        rw [← h₁.2, hsites] at h₂
        simp only [Lower.outcome_eq_iff, Except.ok.injEq] at h₂
        rw [h₁.1, h₂.1, h₂.2]

end Site

end Lowering

end TeachingTree

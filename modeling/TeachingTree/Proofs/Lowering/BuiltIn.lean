/-
**Overloaded operators are lowered as built-in ones.**

An overloaded operator with two operands is a call in the source tree.  Where its symbol is that of
an operator with two operands, or the pair of brackets of an array, the schema makes no difference
between the call and the built-in operator.  This module writes all such calls in a source tree as
built-in operators, at once and at any depth, and shows that nothing comes of it: the document with
its numbers and places, the failure and the log stay the same.

A call in the place of a declaration is no operator, and stays; everything below it, and below any
other declaration, is written anew.

Main definitions:

* `asBuiltIn` — a call as a built-in operator, if it is one;
* `builtInBelow` — a source tree with built-in operators everywhere below its root;
* `Site.builtIn` — the same of a site, in whose place it depends whether the root counts.

Main results:

* `Site.sameScheme_builtIn`, `Site.parts_builtIn` — the tables of the scheme stay as they are;
* `Site.alike_builtIn` — **a site is lowered as with built-in operators**;
* `lowerProgram_builtIn` — **overloaded operators are lowered as built-in ones**.
-/

import TeachingTree.Proofs.Lowering.Alike

set_option relaxedAutoImplicit false
set_option autoImplicit false

namespace TeachingTree.Lowering

/-! ### Built-in operators in source trees -/

/-- An overloaded operator with two operands as the built-in operator of the same symbol, operands
and place, if there is one. -/
def asBuiltIn : Node → Node
  | .operatorCall (some name) [lhs, rhs] position =>
    if name = "[]" then .subscript lhs rhs position
    else if isBinaryOperator name then .binary name lhs rhs position
    else .operatorCall (some name) [lhs, rhs] position
  | node => node

mutual

/-- A source tree in which all overloaded operators below the root, in the place of an expression or
of a statement, are written as built-in ones. -/
def builtInBelow : Node → Node
  | .unary opcode operand isLeading position =>
    .unary opcode (asBuiltIn (builtInBelow operand)) isLeading position
  | .binary opcode lhs rhs position =>
    .binary opcode (asBuiltIn (builtInBelow lhs)) (asBuiltIn (builtInBelow rhs)) position
  | .member base key position => .member (asBuiltIn (builtInBelow base)) key position
  | .subscript base index position =>
    .subscript (asBuiltIn (builtInBelow base)) (asBuiltIn (builtInBelow index)) position
  | .operatorCall operator args position => .operatorCall operator (builtInAll args) position
  | .methodCall method receiver args position =>
    .methodCall method (asBuiltIn (builtInBelow receiver)) (builtInAll args) position
  | .call callee args position => .call callee (builtInAll args) position
  | .compound body position => .compound (builtInAll body) position
  | .ifStmt condition thenBranch elseBranch declared position =>
    .ifStmt (asBuiltIn (builtInBelow condition)) (asBuiltIn (builtInBelow thenBranch))
      (asBuiltIn (builtInBelow elseBranch)) (builtInDeclared declared) position
  | .whileStmt condition body declared position =>
    .whileStmt (asBuiltIn (builtInBelow condition)) (asBuiltIn (builtInBelow body))
      (builtInDeclared declared) position
  | .forStmt init condition increment body position =>
    .forStmt (asBuiltIn (builtInBelow init)) (asBuiltIn (builtInBelow condition))
      (asBuiltIn (builtInBelow increment)) (asBuiltIn (builtInBelow body)) position
  | .doStmt body condition position =>
    .doStmt (asBuiltIn (builtInBelow body)) (asBuiltIn (builtInBelow condition)) position
  | .returnStmt value position => .returnStmt (asBuiltIn (builtInBelow value)) position
  | .labelStmt name sub position => .labelStmt name (asBuiltIn (builtInBelow sub)) position
  | .declStmt decls position => .declStmt (builtInBelowAll decls) position
  | .var v => .var (builtInVariable v)
  | .function name result params body isDefinition position =>
    .function name result (builtInVariables params) (asBuiltIn (builtInBelow body)) isDefinition
      position
  | .record name members isImplicit position =>
    .record name (builtInBelowAll members) isImplicit position
  | .unit decls path => .unit (builtInBelowAll decls) path
  | node => node

/-- Trees in the place of expressions or of statements, with built-in operators. -/
def builtInAll : List Node → List Node
  | [] => []
  | node :: nodes => asBuiltIn (builtInBelow node) :: builtInAll nodes

/-- Trees in the place of declarations, with built-in operators below them. -/
def builtInBelowAll : List Node → List Node
  | [] => []
  | node :: nodes => builtInBelow node :: builtInBelowAll nodes

/-- A variable with built-in operators in its initial value. -/
def builtInVariable : Variable → Variable
  | .mk head init => .mk head (asBuiltIn (builtInBelow init))

/-- Variables with built-in operators in their initial values. -/
def builtInVariables : List Variable → List Variable
  | [] => []
  | v :: vs => builtInVariable v :: builtInVariables vs

/-- The variable that a condition declares, with built-in operators in its initial value. -/
def builtInDeclared : Option Variable → Option Variable
  | none => none
  | some v => some (builtInVariable v)

end

theorem builtInAll_eq_map (nodes : List Node) :
    builtInAll nodes = nodes.map fun node => asBuiltIn (builtInBelow node) := by
  induction nodes with
  | nil => rfl
  | cons node nodes ih => rw [builtInAll, ih, List.map_cons]

theorem builtInBelowAll_eq_map (nodes : List Node) :
    builtInBelowAll nodes = nodes.map builtInBelow := by
  induction nodes with
  | nil => rfl
  | cons node nodes ih => rw [builtInBelowAll, ih, List.map_cons]

theorem builtInVariables_eq_map (vs : List Variable) :
    builtInVariables vs = vs.map builtInVariable := by
  induction vs with
  | nil => rfl
  | cons v vs ih => rw [builtInVariables, ih, List.map_cons]

@[simp] theorem length_builtInAll (nodes : List Node) :
    (builtInAll nodes).length = nodes.length := by
  rw [builtInAll_eq_map, List.length_map]

@[simp] theorem head_builtInVariable (v : Variable) : (builtInVariable v).head = v.head := by
  cases v
  rfl

@[simp] theorem init_builtInVariable (v : Variable) :
    (builtInVariable v).init = asBuiltIn (builtInBelow v.init) := by
  cases v
  rfl

/-- No operator with two operands is an operator of a chain. -/
theorem streamCall?_of_isBinaryOperator {name : String} (h : isBinaryOperator name = true) :
    streamCall? name = none := by
  have hall : ∀ other ∈ binaryOperators, streamCall? other = none := by decide
  exact hall name (List.contains_iff_mem.1 h)

/-- A call that is not written as a built-in operator stays, with built-in operators below it. -/
theorem asBuiltIn_operatorCall_cases (operator : Option String) (args : List Node)
    (position : Position) :
    (∃ lhs rhs, args = [lhs, rhs] ∧ operator = some "[]" ∧
      asBuiltIn (.operatorCall operator args position) = .subscript lhs rhs position) ∨
    (∃ name lhs rhs, args = [lhs, rhs] ∧ operator = some name ∧ name ≠ "[]" ∧
      isBinaryOperator name = true ∧
      asBuiltIn (.operatorCall operator args position) = .binary name lhs rhs position) ∨
    asBuiltIn (.operatorCall operator args position) = .operatorCall operator args position := by
  match operator, args with
  | some name, [lhs, rhs] =>
      by_cases hsub : name = "[]"
      · subst hsub
        exact .inl ⟨lhs, rhs, rfl, rfl, rfl⟩
      · by_cases hbin : isBinaryOperator name = true
        · refine .inr (.inl ⟨name, lhs, rhs, rfl, rfl, hsub, hbin, ?_⟩)
          simp only [asBuiltIn, if_neg hsub, if_pos hbin]
        · refine .inr (.inr ?_)
          simp only [asBuiltIn, if_neg hsub, if_neg hbin]
  | none, _ => exact .inr (.inr rfl)
  | some _, [] => exact .inr (.inr rfl)
  | some _, [_] => exact .inr (.inr rfl)
  | some _, _ :: _ :: _ :: _ => exact .inr (.inr rfl)

/-- In `v[i] << a + b`, all three of them calls, only the outermost stays a call. -/
example :
    let name (n : String) : Node := .reference n (.plain { kind := .record }) ⟨1, 1⟩
    let sum : Node := .operatorCall (some "+") [name "a", name "b"] ⟨1, 9⟩
    let element : Node := .operatorCall (some "[]") [name "v", name "i"] ⟨1, 2⟩
    asBuiltIn (builtInBelow (.operatorCall (some "<<") [element, sum] ⟨1, 6⟩)) =
      .operatorCall (some "<<")
        [.subscript (name "v") (name "i") ⟨1, 2⟩, .binary "+" (name "a") (name "b") ⟨1, 9⟩]
        ⟨1, 6⟩ := by
  cbv

/-! ### Built-in operators at sites -/

namespace Site

/-- A site in which all overloaded operators, in the place of expressions or of statements, are
written as built-in ones. -/
def builtIn : Site → Site
  | .expr node => .expr (asBuiltIn (builtInBelow node))
  | .stmt node => .stmt (asBuiltIn (builtInBelow node))
  | .decl node => .decl (builtInBelow node)
  | .unit decls => .unit (builtInBelowAll decls)
  | .var v => .var (builtInVariable v)
  | .field f => .field f
  | .key f => .key f
  | .member recordName node => .member recordName (builtInBelow node)
  | .type name depth => .type name depth
  | .block body => .block (asBuiltIn (builtInBelow body))
  | .loopInit init position => .loopInit (asBuiltIn (builtInBelow init)) position
  | .conditionVariable construct v => .conditionVariable construct (builtInVariable v)
  | .methodCall method args position => .methodCall method (builtInAll args) position

variable (verbose : Bool)

/-! ### One operator -/

/-- The scheme does not tell an overloaded operator from the built-in one, and neither do the parts
of the two. -/
theorem sameScheme_asBuiltIn (node : Node) :
    SameScheme verbose (expr (asBuiltIn node)) (expr node) ∧
      exprParts (asBuiltIn node) = exprParts node := by
  cases node with
  | operatorCall operator args position =>
      obtain ⟨lhs, rhs, rfl, rfl, h⟩ | ⟨name, lhs, rhs, rfl, rfl, hsub, hbin, h⟩ | h :=
        asBuiltIn_operatorCall_cases operator args position
      · rw [h]
        exact ⟨⟨rfl, rfl, rfl, rfl, fun _ _ => rfl, fun _ _ _ => rfl⟩, rfl⟩
      · have hchain : streamCall? name = none := streamCall?_of_isBinaryOperator hbin
        have huse := operatorUse_of_isBinaryOperator hchain hsub hbin
        rw [h]
        by_cases hcomma : name = ","
        · subst hcomma
          exact ⟨⟨rfl, rfl, rfl, rfl, fun _ _ => rfl, fun _ _ _ => rfl⟩, rfl⟩
        · rw [if_neg hcomma] at huse
          refine ⟨⟨rfl, ?_, ?_, rfl, fun inChain results => ?_,
            fun inChain id results => ?_⟩, ?_⟩ <;>
            simp [isChain, notes, numbersLast, exprNumbersLast, result, exprResult, exprParts, huse,
              hcomma, OperatorUse.isChain, OperatorUse.lowersOperands]
      · rw [h]
        exact ⟨SameScheme.refl _, rfl⟩
  | _ => exact ⟨SameScheme.refl _, rfl⟩

/-! ### The tables at sites with built-in operators -/

/-- As a statement, an operator is the expression that it is. -/
theorem sameScheme_stmt_asBuiltIn (node : Node) :
    SameScheme verbose (stmt (asBuiltIn node)) (stmt node) := by
  cases node with
  | operatorCall operator args position =>
      obtain ⟨lhs, rhs, -, -, h⟩ | ⟨name, lhs, rhs, -, -, -, -, h⟩ | h :=
        asBuiltIn_operatorCall_cases operator args position <;>
      · rw [h]
        exact ⟨rfl, rfl, rfl, rfl, fun _ _ => rfl, fun _ _ _ => rfl⟩
  | _ => exact SameScheme.refl _

/-- Only what is below the root is written anew. -/
theorem shell_builtInBelow (node : Node) : (builtInBelow node).shell = node.shell := by
  cases node with
  | operatorCall operator args position =>
      simp only [builtInBelow, Node.shell, builtInAll_eq_map, List.map_map, Function.comp_def]
  | declStmt decls position =>
      simp only [builtInBelow, Node.shell, builtInBelowAll_eq_map, List.map_map, Function.comp_def]
  | var v =>
      cases v
      rfl
  | _ => rfl

/-- **Built-in operators leave the scheme as it is.** -/
theorem sameScheme_builtIn (site : Site) : SameScheme verbose site.builtIn site := by
  cases site with
  | expr node =>
      exact (sameScheme_asBuiltIn verbose (builtInBelow node)).1.trans
        (sameScheme_expr_of_shell (shell_builtInBelow node))
  | stmt node =>
      exact (sameScheme_stmt_asBuiltIn verbose (builtInBelow node)).trans
        (sameScheme_stmt_of_shell (shell_builtInBelow node))
  | decl node => exact sameScheme_decl_of_shell (shell_builtInBelow node)
  | var v =>
      refine ⟨rfl, rfl, rfl, rfl, fun _ _ => rfl, fun inChain id results => ?_⟩
      simp only [builtIn, result, head_builtInVariable]
  | member recordName node =>
      exact sameScheme_member_of_shell (shell_builtInBelow node) recordName
  | conditionVariable construct v =>
      cases v
      exact ⟨rfl, rfl, rfl, rfl, fun _ _ => rfl, fun _ _ _ => rfl⟩
  | _ => exact ⟨rfl, rfl, rfl, rfl, fun _ _ => rfl, fun _ _ _ => rfl⟩

/-! ### The parts of sites with built-in operators -/

theorem exprParts_builtInBelow (node : Node) :
    exprParts (builtInBelow node) = (exprParts node).map builtIn := by
  cases node with
  | binary opcode lhs rhs position =>
      by_cases hcomma : opcode = "," <;> simp [builtInBelow, exprParts, builtIn, hcomma]
  | operatorCall operator args position =>
      simp only [builtInBelow, exprParts, length_builtInAll]
      split <;> simp [builtInAll_eq_map, builtIn]
  | call callee args position =>
      cases callee <;> simp [builtInBelow, exprParts, builtInAll_eq_map, builtIn]
  | _ => rfl

/-- No operator is written as nothing, and nothing stays nothing. -/
theorem isAbsent_builtIn (node : Node) :
    (asBuiltIn (builtInBelow node)).isAbsent = node.isAbsent := by
  cases node with
  | operatorCall operator args position =>
      obtain ⟨lhs, rhs, -, -, h⟩ | ⟨name, lhs, rhs, -, -, -, -, h⟩ | h :=
        asBuiltIn_operatorCall_cases operator (builtInAll args) position <;>
      · rw [builtInBelow, h]
        rfl
  | _ => rfl

theorem stmtParts_builtIn (node : Node) :
    stmtParts (asBuiltIn (builtInBelow node)) = (stmtParts node).map builtIn := by
  cases node with
  | operatorCall operator args position =>
      have hparts : stmtParts (asBuiltIn (builtInBelow (.operatorCall operator args position))) =
          [expr (asBuiltIn (builtInBelow (.operatorCall operator args position)))] := by
        obtain ⟨lhs, rhs, -, -, h⟩ | ⟨name, lhs, rhs, -, -, -, -, h⟩ | h :=
          asBuiltIn_operatorCall_cases operator (builtInAll args) position <;>
        · rw [builtInBelow, h]
          rfl
      exact hparts
  | compound body position =>
      simp [asBuiltIn, builtInBelow, stmtParts, builtInAll_eq_map, builtIn]
  | declStmt decls position =>
      simp [asBuiltIn, builtInBelow, stmtParts, builtInBelowAll_eq_map, builtIn]
  | ifStmt condition thenBranch elseBranch declared position =>
      have habsent := isAbsent_builtIn elseBranch
      change stmtParts
        (builtInBelow (.ifStmt condition thenBranch elseBranch declared position)) = _
      cases declared <;> cases helse : elseBranch.isAbsent <;>
        simp [builtInBelow, builtInDeclared, stmtParts, ofCondition, builtIn, habsent, helse]
  | whileStmt condition body declared position => cases declared <;> rfl
  | _ => rfl

theorem declParts_builtInBelow (node : Node) :
    declParts (builtInBelow node) = (declParts node).map builtIn := by
  cases node with
  | function name resultType params body isDefinition position =>
      cases isDefinition <;>
        simp [builtInBelow, declParts, builtInVariables_eq_map, ofType, builtIn, asBuiltIn]
  | record name members isImplicit position =>
      cases isImplicit <;> simp [builtInBelow, declParts, builtInBelowAll_eq_map, builtIn]
  | _ => rfl

/-- The parts of a site with built-in operators are the parts of the site, with built-in
operators. -/
theorem parts_builtIn (site : Site) : site.builtIn.parts = site.parts.map builtIn := by
  cases site with
  | expr node =>
      exact (sameScheme_asBuiltIn false (builtInBelow node)).2.trans (exprParts_builtInBelow node)
  | stmt node => exact stmtParts_builtIn node
  | decl node => exact declParts_builtInBelow node
  | unit decls => simp [builtIn, parts, builtInBelowAll_eq_map]
  | var v => cases hkeeps : keepsInit v.head <;> simp [builtIn, parts, ofType, hkeeps]
  | member recordName node => cases node <;> rfl
  | type name depth => cases depth <;> rfl
  | methodCall method args position => simp [builtIn, parts, builtInAll_eq_map]
  | _ => rfl

/-! ### All sites -/

/-- **A site is lowered as with built-in operators**, from the same state to the same state. -/
theorem alike_builtIn (site : Site) : Alike verbose site.builtIn site :=
  alike_map (fun site => .inr ⟨sameScheme_builtIn verbose site, parts_builtIn site⟩) site

end Site

/-! ### Programs -/

/-- **Overloaded operators are lowered as built-in ones.**  A program in which all overloaded
operators with two operands, wherever they stand as expressions or statements, are written as the
built-in operators of the same symbols, operands and places has the same outcome: the same document
with the same numbers and places, or the same failure, and the same log. -/
theorem lowerProgram_builtIn (verbose : Bool) (decls : List Node) :
    lowerProgram verbose (decls.map builtInBelow) = lowerProgram verbose decls := by
  have hunit := Site.alike_builtIn verbose (.unit decls) {}
  rw [Site.builtIn, builtInBelowAll_eq_map] at hunit
  have hrun : lowerUnit verbose (decls.map builtInBelow) {} = lowerUnit verbose decls {} := hunit
  exact congrArg (fun run => (run.1, run.2.log)) hrun

end TeachingTree.Lowering

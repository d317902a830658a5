/-
**The sites of a source tree: what a lowering reaches, and in which order.**

A *site* is a piece of a source tree together with the role in which the lowering meets it: an
expression in the place of an expression, a statement in the place of a statement, the type of a
variable, the block of a loop.  Each site has *parts*, the sites that its lowering goes on to, in
the order in which it does.  The sites that are reached from a site through parts are its *live*
sites; whatever is not among them is never looked at.

The definitions of this module say nothing of numbers and results.  They are tables over the
constructors of the source tree, and the theory of the lowering is an induction along them.

Main definitions:

* `Site`, `Site.parts` — the sites, and what the lowering of a site goes on to;
* `Site.offence?` — the failure at a site that has no rule;
* `Site.live` — the live sites of a site, in the order in which the lowering comes to them;
* `OperatorUse` — what becomes of an overloaded operator.

Main results:

* `Site.not_key_or_member_of_mem_parts` — roles that only one construct hands out;
* `Site.weight_lt_of_mem_parts` — parts are smaller, so that there is no infinite descent;
* `Site.induction` — **what holds of a site whenever it holds of its parts holds of every site**;
* `Site.live_eq` — the live sites are the site itself and the live sites of its parts in order.
-/

import TeachingTree.Lowering.Program

set_option relaxedAutoImplicit false
set_option autoImplicit false

namespace TeachingTree.Lowering

/-! ### Operators -/

/-- What becomes of an overloaded operator. -/
inductive OperatorUse where
  /-- A call of the given name, or the arguments of one. -/
  | chain (callName : String)
  /-- A node with two operands and the given operator. -/
  | binary (opcode : String)
  /-- The warning that stands in the place of the comma operator. -/
  | comma
  /-- The error that stands in the place of an operator without a rule. -/
  | other
  deriving DecidableEq, Repr

/-- What becomes of an operator with so many operands. -/
def operatorUse (operator : Option String) (operands : Nat) : OperatorUse :=
  match operator.bind streamCall? with
  | some callName => .chain callName
  | none =>
    match operator, operands with
    | some name, 2 =>
      if name = "[]" then .binary "[]"
      else if isBinaryOperator name then
        if name = "," then .comma else .binary (binaryOpcode name)
      else .other
    | _, _ => .other

/-- Whether the operands are lowered. -/
def OperatorUse.lowersOperands : OperatorUse → Bool
  | .chain _ => true
  | .binary _ => true
  | .comma => false
  | .other => false

/-- Whether the operands are those of a chain. -/
def OperatorUse.isChain : OperatorUse → Bool
  | .chain _ => true
  | _ => false

/-! ### Sites -/

/-- A piece of a source tree and the role in which it is lowered. -/
inductive Site where
  /-- A node in the place of an expression. -/
  | expr (node : Node)
  /-- A node in the place of a statement. -/
  | stmt (node : Node)
  /-- A node in the place of a declaration. -/
  | decl (node : Node)
  /-- The declarations of a program. -/
  | unit (decls : List Node)
  /-- A variable or parameter. -/
  | var (declared : Variable)
  /-- A field of a record. -/
  | field (declared : Field)
  /-- The field that a member access names. -/
  | key (declared : Field)
  /-- A member of the named record. -/
  | member (recordName : String) (node : Node)
  /-- A name inside so many vectors. -/
  | type (name : String) (depth : Nat)
  /-- A statement whose result makes a block. -/
  | block (body : Node)
  /-- The first clause of the header of a loop at a position. -/
  | loopInit (init : Node) (position : Position)
  /-- A variable in the place of the condition of a construct. -/
  | conditionVariable (construct : String) (declared : Variable)
  /-- The call of a method, without its receiver. -/
  | methodCall (method : String) (args : List Node) (position : Position)

namespace Site

/-- The site of a type. -/
def ofType (type : SourceType) : Site := .type (innermostName type) type.vectorDepth

/-- The site of a condition, in which a variable may be declared. -/
def ofCondition (construct : String) (declared : Option Variable) (condition : Node) : Site :=
  match declared with
  | some v => .conditionVariable construct v
  | none => .expr condition

/-- The parts of an expression. -/
def exprParts : Node → List Site
  | .unary _ operand _ _ => [.expr operand]
  | .binary opcode lhs rhs _ => if opcode = "," then [] else [.expr lhs, .expr rhs]
  | .member base f _ => [.expr base, .key f]
  | .subscript base index _ => [.expr base, .expr index]
  | .operatorCall operator args _ =>
    if (operatorUse operator args.length).lowersOperands then args.map .expr else []
  | .methodCall method receiver args position =>
    [.methodCall method args position, .expr receiver]
  | .call (some _) args _ => args.map .expr
  | _ => []

/-- The parts of a statement.  A node that is no statement is an expression. -/
def stmtParts : Node → List Site
  | .absent => []
  | .compound body _ => body.map .stmt
  | .ifStmt condition thenBranch elseBranch declared _ =>
    ofCondition "if" declared condition :: .block thenBranch
      :: if elseBranch.isAbsent then [] else [.block elseBranch]
  | .whileStmt condition body declared _ => [ofCondition "while" declared condition, .block body]
  | .forStmt init condition increment body position =>
    [.loopInit init position, .expr condition, .expr increment, .block body]
  | .returnStmt value _ => [.expr value]
  | .declStmt decls _ => decls.map .decl
  | .nullStmt _ => []
  | node => if (rejected? node).isSome then [] else [.expr node]

/-- The parts of a declaration. -/
def declParts : Node → List Site
  | .function _ result params body isDefinition _ =>
    ofType result :: (params.map .var ++ [.block (if isDefinition then body else .absent)])
  | .var v => [.var v]
  | .field f => [.field f]
  | .record name members isImplicit _ => if isImplicit then [] else members.map (.member name)
  | _ => []

/-- The sites that the lowering of a site goes on to, in order. -/
def parts : Site → List Site
  | .expr node => exprParts node
  | .stmt node => stmtParts node
  | .decl node => declParts node
  | .unit decls => decls.map .decl
  | .var v => ofType v.head.type :: if keepsInit v.head then [.expr v.init] else []
  | .field f => [ofType f.type]
  | .key f => [ofType f.type]
  | .member _ (.field f) => [.field f]
  | .member _ _ => []
  | .type _ 0 => []
  | .type name (depth + 1) => [.type name depth]
  | .block body => [.stmt body]
  | .loopInit init _ => [.stmt init]
  | .conditionVariable _ _ => []
  | .methodCall _ args _ => args.map .expr

/-! ### Roles that a single construct hands out -/

/-- Whether a site is the field that a member access names. -/
def isKey : Site → Bool
  | .key _ => true
  | _ => false

/-- Whether a site is a member of a record. -/
def isMember : Site → Bool
  | .member .. => true
  | _ => false

/-- Only a member access has a part that is the field it names, and only a record that is spelled
out has parts that are its members. -/
theorem not_key_or_member_of_mem_parts {site : Site}
    (haccess : ∀ base f position, site ≠ .expr (.member base f position))
    (hrecord : ∀ name members position, site ≠ .decl (.record name members false position)) :
    ∀ part ∈ site.parts, (part.isKey || part.isMember) = false := by
  cases site with
  | expr node =>
      cases node with
      | member base f position => exact absurd rfl (haccess base f position)
      | binary opcode lhs rhs position =>
          simp only [parts, exprParts]
          split <;> simp [isKey, isMember]
      | operatorCall operator args position =>
          simp only [parts, exprParts]
          split <;> simp [isKey, isMember]
      | call callee args position => cases callee <;> simp [parts, exprParts, isKey, isMember]
      | _ => simp [parts, exprParts, isKey, isMember]
  | stmt node =>
      cases node with
      | ifStmt condition thenBranch elseBranch declared position =>
          cases declared <;> cases elseBranch.isAbsent <;>
            simp [parts, stmtParts, ofCondition, isKey, isMember]
      | whileStmt condition body declared position =>
          cases declared <;> simp [parts, stmtParts, ofCondition, isKey, isMember]
      | _ => simp [parts, stmtParts, rejected?, isKey, isMember]
  | decl node =>
      cases node with
      | function name result params body isDefinition position =>
          intro part hpart
          simp only [parts, declParts, List.mem_cons, List.mem_append, List.mem_map,
            List.not_mem_nil, or_false] at hpart
          rcases hpart with rfl | ⟨param, -, rfl⟩ | rfl <;> rfl
      | record name members isImplicit position =>
          cases isImplicit with
          | true => simp [parts, declParts]
          | false => exact absurd rfl (hrecord name members position)
      | _ => simp [parts, declParts, isKey, isMember]
  | var v => cases keepsInit v.head <;> simp [parts, ofType, isKey, isMember]
  | member recordName node => cases node <;> simp [parts, isKey, isMember]
  | type name depth => cases depth <;> simp [parts, isKey, isMember]
  | _ => simp [parts, ofType, isKey, isMember]

/-! ### Offences -/

/-- Whether an expression has a rule. -/
def hasExprRule : Node → Bool
  | .absent => true
  | .integer .. => true
  | .floating .. => true
  | .character .. => true
  | .string .. => true
  | .bool .. => true
  | .reference .. => true
  | .unary .. => true
  | .binary .. => true
  | .member .. => true
  | .subscript .. => true
  | .operatorCall .. => true
  | .methodCall .. => true
  | .call .. => true
  | _ => false

/-- Whether a declaration has a rule. -/
def hasDeclRule : Node → Bool
  | .function .. => true
  | .var .. => true
  | .field .. => true
  | .record .. => true
  | .method .. => true
  | .unsupportedDecl .. => true
  | _ => false

/-- Why the lowering stops at a site itself, not at one of its parts. -/
def offence? : Site → Option LoweringError
  | .expr (.unmodeled kindName position) => some (.unsupported kindName position)
  | .expr node => if hasExprRule node then none else some (.noRule node.className node.position?)
  | .decl node =>
    if hasDeclRule node then none else some (.noDeclarationRule node.className node.position?)
  | _ => none

/-! ### Parts are smaller -/

/-- The size of a site.  A node counts more in the roles that hand it on to another role. -/
noncomputable def weight : Site → Nat
  | .expr node => 3 * sizeOf node
  | .stmt node => 3 * sizeOf node + 1
  | .decl node => 3 * sizeOf node
  | .unit decls => 3 * sizeOf decls
  | .var v => 3 * sizeOf v
  | .field f => f.type.vectorDepth + 1
  | .key f => f.type.vectorDepth + 1
  | .member _ node => 3 * sizeOf node
  | .type _ depth => depth
  | .block body => 3 * sizeOf body + 2
  | .loopInit init _ => 3 * sizeOf init + 2
  | .conditionVariable _ _ => 0
  | .methodCall _ args _ => 3 * sizeOf args

theorem vectorDepth_lt_sizeOf (type : SourceType) : type.vectorDepth < sizeOf type := by
  induction type with
  | plain shape =>
      have h : 0 < sizeOf shape := by cases shape; simp
      simp only [SourceType.vectorDepth, SourceType.plain.sizeOf_spec]
      split <;> omega
  | containing shape element ih =>
      simp only [SourceType.vectorDepth, SourceType.containing.sizeOf_spec]
      split <;> omega

theorem weight_ofType_lt (type : SourceType) : (ofType type).weight < sizeOf type :=
  vectorDepth_lt_sizeOf type

theorem sizeOf_type_lt_field (f : Field) : sizeOf f.type < sizeOf f := by
  cases f
  simp only [Field.mk.sizeOf_spec]
  omega

theorem weight_field_lt (f : Field) : f.type.vectorDepth + 1 < sizeOf f := by
  have h₁ := vectorDepth_lt_sizeOf f.type
  have h₂ := sizeOf_type_lt_field f
  omega

theorem sizeOf_absent_le (node : Node) : sizeOf Node.absent ≤ sizeOf node := by
  cases node <;> simp only [Node.absent.sizeOf_spec] <;> simp <;> omega

theorem weight_ofCondition_le (construct : String) (declared : Option Variable)
    (condition : Node) :
    (ofCondition construct declared condition).weight ≤ 3 * sizeOf condition := by
  cases declared with
  | none => exact Nat.le_refl _
  | some v => exact Nat.zero_le _

/-- The parts of a site are smaller than the site. -/
theorem weight_lt_of_mem_exprParts {node : Node} {part : Site} (h : part ∈ exprParts node) :
    part.weight < 3 * sizeOf node := by
  have hargs : ∀ {args : List Node}, part ∈ args.map Site.expr → part.weight < 3 * sizeOf args := by
    intro args hmem
    obtain ⟨arg, harg, rfl⟩ := List.mem_map.1 hmem
    have := List.sizeOf_lt_of_mem harg
    simp only [weight]
    omega
  cases node with
  | unary opcode operand isLeading position =>
      simp only [exprParts, List.mem_singleton] at h
      subst h
      simp only [weight, Node.unary.sizeOf_spec]
      omega
  | binary opcode lhs rhs position =>
      simp only [exprParts] at h
      split at h
      · simp at h
      · simp only [List.mem_cons, List.not_mem_nil, or_false] at h
        rcases h with rfl | rfl <;> simp only [weight, Node.binary.sizeOf_spec] <;> omega
  | member base f position =>
      have := weight_field_lt f
      simp only [exprParts, List.mem_cons, List.not_mem_nil, or_false] at h
      rcases h with rfl | rfl <;> simp only [weight, Node.member.sizeOf_spec] <;> omega
  | subscript base index position =>
      simp only [exprParts, List.mem_cons, List.not_mem_nil, or_false] at h
      rcases h with rfl | rfl <;> simp only [weight, Node.subscript.sizeOf_spec] <;> omega
  | operatorCall operator args position =>
      simp only [exprParts] at h
      split at h
      · have := hargs h
        simp only [Node.operatorCall.sizeOf_spec]
        omega
      · simp at h
  | methodCall method receiver args position =>
      simp only [exprParts, List.mem_cons, List.not_mem_nil, or_false] at h
      rcases h with rfl | rfl <;> simp only [weight, Node.methodCall.sizeOf_spec] <;> omega
  | call callee args position =>
      cases callee with
      | none => simp [exprParts] at h
      | some callee =>
          have := hargs h
          simp only [Node.call.sizeOf_spec]
          omega
  | _ => simp [exprParts] at h

theorem weight_lt_of_mem_stmtParts {node : Node} {part : Site} (h : part ∈ stmtParts node) :
    part.weight < 3 * sizeOf node + 1 := by
  cases node with
  | absent => simp [stmtParts] at h
  | nullStmt position => simp [stmtParts] at h
  | compound body position =>
      obtain ⟨stmt, hstmt, rfl⟩ := List.mem_map.1 h
      have := List.sizeOf_lt_of_mem hstmt
      simp only [weight, Node.compound.sizeOf_spec]
      omega
  | declStmt decls position =>
      obtain ⟨decl, hdecl, rfl⟩ := List.mem_map.1 h
      have := List.sizeOf_lt_of_mem hdecl
      simp only [weight, Node.declStmt.sizeOf_spec]
      omega
  | returnStmt value position =>
      simp only [stmtParts, List.mem_singleton] at h
      subst h
      simp only [weight, Node.returnStmt.sizeOf_spec]
      omega
  | ifStmt condition thenBranch elseBranch declared position =>
      have hcondition := weight_ofCondition_le "if" declared condition
      simp only [stmtParts, List.mem_cons] at h
      rcases h with rfl | rfl | h
      · simp only [Node.ifStmt.sizeOf_spec]
        omega
      · simp only [weight, Node.ifStmt.sizeOf_spec]
        omega
      · split at h
        · simp at h
        · simp only [List.mem_singleton] at h
          subst h
          simp only [weight, Node.ifStmt.sizeOf_spec]
          omega
  | whileStmt condition body declared position =>
      have hcondition := weight_ofCondition_le "while" declared condition
      simp only [stmtParts, List.mem_cons, List.not_mem_nil, or_false] at h
      rcases h with rfl | rfl
      · simp only [Node.whileStmt.sizeOf_spec]
        omega
      · simp only [weight, Node.whileStmt.sizeOf_spec]
        omega
  | forStmt init condition increment body position =>
      simp only [stmtParts, List.mem_cons, List.not_mem_nil, or_false] at h
      rcases h with rfl | rfl | rfl | rfl <;> simp only [weight, Node.forStmt.sizeOf_spec] <;> omega
  | _ =>
      -- rejected statements have no parts, and expressions are parts of themselves
      simp only [stmtParts, rejected?] at h
      first
        | (simp at h; done)
        | (simp only [Option.isSome_none, Bool.false_eq_true, if_false, List.mem_singleton] at h
           subst h
           exact Nat.lt_succ_self _)

theorem weight_lt_of_mem_declParts {node : Node} {part : Site} (h : part ∈ declParts node) :
    part.weight < 3 * sizeOf node := by
  cases node with
  | function name result params body isDefinition position =>
      have hresult := weight_ofType_lt result
      have habsent := sizeOf_absent_le body
      simp only [declParts, List.mem_cons, List.mem_append, List.mem_map, List.not_mem_nil,
        or_false] at h
      rcases h with rfl | ⟨param, hparam, rfl⟩ | rfl
      · simp only [Node.function.sizeOf_spec]
        omega
      · have := List.sizeOf_lt_of_mem hparam
        simp only [weight, Node.function.sizeOf_spec]
        omega
      · have hbody : sizeOf (if isDefinition then body else Node.absent) ≤ sizeOf body := by
          split <;> omega
        simp only [weight, Node.function.sizeOf_spec]
        omega
  | var v =>
      simp only [declParts, List.mem_singleton] at h
      subst h
      simp only [weight, Node.var.sizeOf_spec]
      omega
  | field f =>
      have := weight_field_lt f
      simp only [declParts, List.mem_singleton] at h
      subst h
      simp only [weight, Node.field.sizeOf_spec]
      omega
  | record name members isImplicit position =>
      simp only [declParts] at h
      split at h
      · simp at h
      · obtain ⟨member, hmember, rfl⟩ := List.mem_map.1 h
        have := List.sizeOf_lt_of_mem hmember
        simp only [weight, Node.record.sizeOf_spec]
        omega
  | _ => simp [declParts] at h

theorem weight_lt_of_mem_parts {site part : Site} (h : part ∈ site.parts) :
    part.weight < site.weight := by
  cases site with
  | expr node => exact weight_lt_of_mem_exprParts h
  | stmt node => exact weight_lt_of_mem_stmtParts h
  | decl node => exact weight_lt_of_mem_declParts h
  | unit decls =>
      obtain ⟨decl, hdecl, rfl⟩ := List.mem_map.1 h
      have := List.sizeOf_lt_of_mem hdecl
      simp only [weight]
      omega
  | var v =>
      obtain ⟨head, init⟩ := v
      have htype := weight_ofType_lt head.type
      have hhead : sizeOf head.type < sizeOf head := by cases head; simp; omega
      rcases List.mem_cons.1 h with rfl | h
      · simp only [weight, Variable.mk.sizeOf_spec] at htype ⊢
        exact Nat.lt_of_lt_of_le htype (by omega)
      · obtain rfl : part = .expr init := by
          cases hkeeps : keepsInit head <;> simp_all [Variable.head, Variable.init]
        simp only [weight, Variable.mk.sizeOf_spec]
        omega
  | field f =>
      simp only [parts, List.mem_singleton] at h
      subst h
      exact Nat.lt_succ_self _
  | key f =>
      simp only [parts, List.mem_singleton] at h
      subst h
      exact Nat.lt_succ_self _
  | member recordName node =>
      cases node with
      | field f =>
          have := weight_field_lt f
          simp only [parts, List.mem_singleton] at h
          subst h
          simp only [weight, Node.field.sizeOf_spec]
          omega
      | _ => simp [parts] at h
  | type name depth =>
      cases depth with
      | zero => simp [parts] at h
      | succ depth =>
          simp only [parts, List.mem_singleton] at h
          subst h
          exact Nat.lt_succ_self _
  | block body =>
      simp only [parts, List.mem_singleton] at h
      subst h
      exact Nat.lt_succ_self _
  | loopInit init position =>
      simp only [parts, List.mem_singleton] at h
      subst h
      exact Nat.lt_succ_self _
  | conditionVariable construct declared => simp [parts] at h
  | methodCall method args position =>
      obtain ⟨arg, harg, rfl⟩ := List.mem_map.1 h
      have := List.sizeOf_lt_of_mem harg
      simp only [weight]
      omega

/-- **Induction along the parts**: what holds of a site whenever it holds of its parts holds of
every site. -/
theorem induction {P : Site → Prop} (h : ∀ site, (∀ part ∈ site.parts, P part) → P site)
    (site : Site) : P site := by
  -- strong induction on a bound for the weight, which strictly decreases from a site to its parts
  have key : ∀ (n : Nat) (site : Site), site.weight < n → P site := by
    intro n
    induction n with
    | zero => intro site hsite; exact absurd hsite (Nat.not_lt_zero _)
    | succ n ih =>
        intro site hsite
        refine h site fun part hpart => ih part ?_
        have := weight_lt_of_mem_parts hpart
        omega
  exact key (site.weight + 1) site (Nat.lt_succ_self _)

/-! ### Live sites -/

/-- **The live sites of a site**: all that its lowering comes to, in the order in which it does,
the site itself first. -/
def live (site : Site) : List Site :=
  site :: site.parts.attach.flatMap fun part => live part.1
termination_by site.weight
decreasing_by exact weight_lt_of_mem_parts part.2

theorem live_eq (site : Site) : site.live = site :: site.parts.flatMap live := by
  rw [live, List.flatMap_subtype (g := live) fun _ _ => rfl, List.unattach_attach]

theorem mem_live_self (site : Site) : site ∈ site.live := by
  rw [live_eq]; exact List.mem_cons_self ..

/-- What is live in a part is live. -/
theorem mem_live_of_mem_parts {site part other : Site} (hpart : part ∈ site.parts)
    (h : other ∈ part.live) : other ∈ site.live := by
  rw [live_eq]
  exact List.mem_cons_of_mem _ (List.mem_flatMap.2 ⟨part, hpart, h⟩)

end Site

end TeachingTree.Lowering

/-
**Which operators of chains become calls.**

An operator of a chain becomes a call of its own only if the flag is clear when it is met.  The flag
stays set while the operands of a chain are lowered, whatever constructs lie between, so that a
chain inside an operand of another one makes no call: its arguments become a group, which is spliced
into the arguments of a call, or else stands in a place that is meant for one node.  This module
says exactly which calls a document has, and where in it groups stand.

Main definitions:

* `Site.ownCall?`, `Site.calls` — the calls of a site;
* `Site.operands` — the operands of an expression that becomes an operator;
* `Site.ownGroupedOperator?`, `Site.groupedOperators` — the operators that have a group for an
  operand.

Main results:

* `calls_of_lowerProgram` — **the calls of a document, and the groups in places for one node**;
* `exists_chain_without_call` — a chain that is lowered to no call of its own.
-/

import TeachingTree.Proofs.Lowering.Kept

set_option relaxedAutoImplicit false
set_option autoImplicit false

namespace TeachingTree.Lowering

namespace Site

/-! ### Calls and groups of the source tree -/

/-- The call that a site contributes itself.  An operator of a chain that is met inside another
chain contributes none. -/
def ownCall? (inChain : Bool) : Site → Option CallHead
  | .expr (.operatorCall operator args position) =>
    match operatorUse operator args.length with
    | .chain callName => if inChain then none else some ⟨position, callName⟩
    | _ => none
  | .expr (.call (some callee) _ position) => some ⟨position, callee⟩
  | .methodCall method _ position => some ⟨position, method⟩
  | _ => none

/-- The calls of a site: its own, and then those of the parts that stay. -/
def calls (site : Site) : List CallHead := site.pick ownCall? false

/-- The operands of an expression that becomes an operator. -/
def operands : Node → List Node
  | .unary _ operand _ _ => [operand]
  | .binary opcode lhs rhs _ => if opcode = "," then [] else [lhs, rhs]
  | .member base _ _ => [base]
  | .subscript base index _ => [base, index]
  | .operatorCall operator args _ =>
    match operatorUse operator args.length with
    | .binary _ => args
    | _ => []
  | .methodCall _ receiver _ _ => [receiver]
  | _ => []

/-- The place of an expression inside a chain that becomes an operator with another chain for an
operand. -/
def ownGroupedOperator? (inChain : Bool) : Site → Option Position
  | .expr node =>
    if inChain && (operands node).any fun operand => (expr operand).isChain then node.position?
    else none
  | _ => none

/-- The expressions of a site inside chains that become operators with a chain for an operand. -/
def groupedOperators (site : Site) : List Position := site.pick ownGroupedOperator? false

/-! ### What sites make -/

theorem isGroup_singleNode (node : Schema) : (singleNode node).isGroup = false := by
  cases hgroup : node.isGroup with
  | true => rw [singleNode, if_pos hgroup]; rfl
  | false => rw [singleNode, if_neg (by simp [hgroup]), hgroup]

section Made

-- the tables of the scheme, which in this section stand for single sites only
attribute [local simp] made? numbersFirst numbersLast exprNumbersLast result exprResult stmtResult
  declResult varResult commaMessage rejected? ownCall? ownGroupedOperator? operands
  Schema.callHead? Schema.groupedOperator? Schema.groupedClause? becomesGroup Node.position?

variable (inChain : Bool) (id : Int) (results : List Schema)

theorem exprCall?_of_made (node : Node) :
    ((expr node).made? inChain id results).bind Schema.callHead? =
      (expr node).ownCall? inChain := by
  cases node with
  | reference name declared position =>
      cases hkind : declared.kind <;> by_cases hname : name = "endl" <;> simp [hkind, hname]
  | binary opcode lhs rhs position => by_cases hcomma : opcode = "," <;> simp [hcomma]
  | operatorCall operator args position =>
      cases huse : operatorUse operator args.length <;> cases inChain <;> simp [huse]
  | call callee args position => cases callee <;> simp
  | _ => simp

/-- The call that a site makes is the one that is read off the source tree. -/
theorem call_of_made (site : Site) :
    (site.made? inChain id results).bind Schema.callHead? = site.ownCall? inChain := by
  cases site with
  | expr node => exact exprCall?_of_made inChain id results node
  | stmt node => cases node <;> simp
  | decl node =>
      cases node with
      | record name members isImplicit position => cases isImplicit <;> simp
      | _ => simp
  | type name depth => cases depth <;> simp
  | loopInit init position =>
      rw [made?_loopInit]
      split <;> rfl
  | _ => simp

variable {inChain id results}

/-- The operators that have a group for an operand are those with an operand that is a chain, met
with the flag set. -/
theorem exprGroupedOperator?_of_made {node : Node}
    (hgroup : List.Forall₂
      (fun part r => r.isGroup = part.becomesGroup (inChain || (expr node).isChain))
      (exprParts node) results) :
    ((expr node).made? inChain id results).bind Schema.groupedOperator? =
      (expr node).ownGroupedOperator? inChain := by
  cases node with
  | reference name declared position =>
      cases hkind : declared.kind <;> by_cases hname : name = "endl" <;> simp [hkind, hname]
  | unary opcode operand isLeading position =>
      simp only [isChain, Bool.or_false] at hgroup
      rcases hgroup with _ | ⟨hx, _ | _⟩
      simp [hx]
  | binary opcode lhs rhs position =>
      simp only [isChain, Bool.or_false, exprParts] at hgroup
      split at hgroup
      · simp_all
      · rcases hgroup with _ | ⟨hl, _ | ⟨hr, _ | _⟩⟩
        simp_all [and_or_left]
  | member base key position =>
      simp only [isChain, Bool.or_false] at hgroup
      rcases hgroup with _ | ⟨hb, _ | ⟨hk, _ | _⟩⟩
      simp [hb, hk]
  | subscript base index position =>
      simp only [isChain, Bool.or_false] at hgroup
      rcases hgroup with _ | ⟨hb, _ | ⟨hi, _ | _⟩⟩
      simp [hb, hi, and_or_left]
  | methodCall method receiver args position =>
      simp only [isChain, Bool.or_false] at hgroup
      rcases hgroup with _ | ⟨hc, _ | ⟨hx, _ | _⟩⟩
      simp [hc, hx]
  | operatorCall operator args position =>
      simp only [isChain, exprParts] at hgroup
      cases huse : operatorUse operator args.length with
      | binary opcode =>
          simp only [huse, OperatorUse.isChain, OperatorUse.lowersOperands, Bool.or_false, if_true]
            at hgroup
          obtain ⟨lhs, rhs, rfl⟩ := exists_pair_of_operatorUse_binary huse
          rcases hgroup with _ | ⟨hl, _ | ⟨hr, _ | _⟩⟩
          simp_all [and_or_left]
      | chain callName => cases inChain <;> simp [huse]
      | comma => simp [huse]
      | other => simp [huse]
  | call callee args position => cases callee <;> simp
  | _ => simp

theorem groupedOperator_of_made {site : Site}
    (hgroup : List.Forall₂
      (fun part r => r.isGroup = part.becomesGroup (inChain || site.isChain)) site.parts results) :
    (site.made? inChain id results).bind Schema.groupedOperator? =
      site.ownGroupedOperator? inChain := by
  cases site with
  | expr node => exact exprGroupedOperator?_of_made hgroup
  | stmt node => cases node <;> simp
  | decl node =>
      cases node with
      | record name members isImplicit position => cases isImplicit <;> simp
      | _ => simp
  | type name depth => cases depth <;> simp
  | loopInit init position =>
      rw [made?_loopInit]
      split <;> rfl
  | _ => simp

/-- Statements and variables are met outside chains, so that none of their conditions, clauses and
values is a group. -/
theorem groupedClause_of_made {site : Site} (hflag : inChain = true → site.inExpression = true)
    (hgroup : List.Forall₂
      (fun part r => r.isGroup = part.becomesGroup (inChain || site.isChain)) site.parts results) :
    (site.made? inChain id results).bind Schema.groupedClause? = none := by
  cases site with
  | expr node =>
      cases node with
      | reference name declared position =>
          cases hkind : declared.kind <;> by_cases hname : name = "endl" <;> simp [hkind, hname]
      | binary opcode lhs rhs position => by_cases hcomma : opcode = "," <;> simp [hcomma]
      | operatorCall operator args position =>
          cases huse : operatorUse operator args.length <;> cases inChain <;> simp [huse]
      | call callee args position => cases callee <;> simp
      | _ => simp
  | stmt node =>
      obtain rfl : inChain = false := by simpa [inExpression] using hflag
      simp only [isChain, Bool.or_false] at hgroup
      cases node with
      | ifStmt condition thenBranch elseBranch declared position =>
          rcases hgroup with _ | ⟨hc, _⟩
          cases declared <;> simp_all [ofCondition]
      | whileStmt condition body declared position =>
          rcases hgroup with _ | ⟨hc, _⟩
          cases declared <;> simp_all [ofCondition]
      | forStmt init condition increment body position =>
          rcases hgroup with _ | ⟨hi, _ | ⟨hc, _ | ⟨hp, _⟩⟩⟩
          simp_all
      | returnStmt value position =>
          rcases hgroup with _ | ⟨hx, _⟩
          simp_all
      | _ => simp
  | decl node =>
      cases node with
      | record name members isImplicit position => cases isImplicit <;> simp
      | _ => simp
  | var v => simp [isGroup_singleNode]
  | type name depth => cases depth <;> simp
  | loopInit init position =>
      rw [made?_loopInit]
      split <;> rfl
  | _ => simp

end Made

/-- Where no site contributes anything, nothing is picked. -/
theorem pick_none {α : Type} (inChain : Bool) (site : Site) :
    site.pick (fun _ _ => (none : Option α)) inChain = [] := by
  induction site using Site.induction generalizing inChain with
  | h site ih =>
      rw [pick_eq, Option.toList_none, List.nil_append, List.flatMap_eq_nil_iff]
      exact fun part hpart => ih part (kept_subset site hpart) _

end Site

/-! ### Programs -/

/-- **The calls of a document, and the groups in places for one node.**  If a program has a
document, then the calls of the document from left to right are those of the program: an operator
of a chain that is met inside another one makes none.  The operators that have a group for an
operand are those inside a chain with a chain for an operand; and no condition, clause of a header
or value is a group. -/
theorem calls_of_lowerProgram (verbose : Bool) (decls : List Node) (document : Schema)
    (h : (lowerProgram verbose decls).1 = .ok document) :
    document.calls = (Site.unit decls).calls ∧
      document.groupedOperators = (Site.unit decls).groupedOperators ∧
      document.groupedClauses = [] := by
  obtain ⟨last, hrun⟩ := Site.exists_lower_unit_of_lowerProgram h
  refine ⟨?_, ?_, ?_⟩
  · refine Site.pick_of_lower (fun inChain site id results _ _ => ?_) hrun (by simp)
    exact Site.call_of_made inChain id results site
  · refine Site.pick_of_lower (fun inChain site id results _ hgroup => ?_) hrun (by simp)
    exact Site.groupedOperator_of_made hgroup
  · refine (Site.pick_of_lower (fun inChain site id results hflag hgroup => ?_) hrun
      (by simp)).trans (Site.pick_none _ _)
    exact Site.groupedClause_of_made hflag hgroup

/-- The use of the stream `cin` or `cout`. -/
def streamName (name : String) (position : Position) : Node :=
  .reference name (.plain { kind := .stream }) position

/-- The use of an integer. -/
def integerName (name : String) (position : Position) : Node :=
  .reference name (.plain { kind := .integer }) position

/-- The expression `std::cin >> x`, which starts at a column. -/
def readChain (column : Int) : Node :=
  .operatorCall (some ">>")
    [streamName "cin" ⟨1, column⟩, integerName "x" ⟨1, column + 12⟩] ⟨1, column⟩

/-- The expression `(std::cin >> x).good()`, which starts at a column. -/
def testedRead (column : Int) : Node :=
  .methodCall "good" (readChain (column + 1)) [] ⟨1, column⟩

/-- The function `int main()` with the statements
`std::cout << f(std::cin >> x) << (std::cin >> x).good();` and `std::cin >> x;`. -/
def mixedProgram : List Node :=
  let inner : Node :=
    .operatorCall (some "<<")
      [streamName "cout" ⟨1, 1⟩, .call (some "f") [readChain 16] ⟨1, 14⟩] ⟨1, 1⟩
  let outer : Node := .operatorCall (some "<<") [inner, testedRead 34] ⟨1, 1⟩
  [.function "main" (.plain { kind := .integer }) []
    (.compound [outer, readChain 60] .unknown) true .unknown]

theorem calls_of_mixedProgram :
    ∃ document, (lowerProgram false mixedProgram).1 = .ok document ∧
      document.calls =
        [⟨⟨1, 1⟩, "print"⟩, ⟨⟨1, 14⟩, "f"⟩, ⟨⟨1, 34⟩, "good"⟩, ⟨⟨1, 60⟩, "read"⟩] ∧
      document.groupedOperators = [⟨1, 34⟩] ∧
      document.calls = (Site.unit mixedProgram).calls ∧
      document.groupedOperators = (Site.unit mixedProgram).groupedOperators ∧
      document.groupedClauses = [] := by
  obtain ⟨document, hdocument⟩ : ∃ document, (lowerProgram false mixedProgram).1 = .ok document :=
    exists_ok_of_isSome (by decide +kernel)
  obtain ⟨hcalls, hgrouped, hclauses⟩ := calls_of_lowerProgram false mixedProgram document hdocument
  refine ⟨document, hdocument, hcalls.trans ?_, hgrouped.trans ?_, hcalls, hgrouped, hclauses⟩
  · decide +kernel
  · decide +kernel

/-- The function `int main()` with the statement `std::cout << (std::cin >> x).good();`. -/
def testedProgram : List Node :=
  let print : Node :=
    .operatorCall (some "<<") [streamName "cout" ⟨1, 14⟩, testedRead 27] ⟨1, 14⟩
  [.function "main" (.plain { kind := .integer }) [] (.compound [print] ⟨1, 12⟩) true ⟨1, 1⟩]

/-- Chains do not always stay separate: an inner chain of this program is live, but there is no call
in its place, and the operator that has it for an operand has a group there. -/
theorem exists_chain_without_call :
    ∃ document, (lowerProgram false testedProgram).1 = .ok document ∧
      Site.expr (readChain 28) ∈ (Site.unit testedProgram).live ∧
      document.calls = [⟨⟨1, 14⟩, "print"⟩, ⟨⟨1, 27⟩, "good"⟩] ∧
      document.groupedOperators = [⟨1, 27⟩] := by
  have hrun : (lowerProgram false testedProgram).1.toOption.map
      (fun document => (document.calls, document.groupedOperators)) =
        some ([⟨⟨1, 14⟩, "print"⟩, ⟨⟨1, 27⟩, "good"⟩], [⟨1, 27⟩]) := by decide +kernel
  obtain ⟨document, hdocument, hvalues⟩ := exists_ok_of_map hrun
  obtain ⟨hcalls, hgrouped⟩ := Prod.mk.inj hvalues
  refine ⟨document, hdocument, ?_, hcalls, hgrouped⟩
  -- the parts that lead from the program to the inner chain
  refine Site.mem_live_of_mem_parts (List.mem_singleton.2 rfl) ?_
  refine Site.mem_live_of_mem_parts (List.mem_cons_of_mem _ (List.mem_singleton.2 rfl)) ?_
  refine Site.mem_live_of_mem_parts (List.mem_singleton.2 rfl) ?_
  refine Site.mem_live_of_mem_parts (List.mem_singleton.2 rfl) ?_
  refine Site.mem_live_of_mem_parts (List.mem_singleton.2 rfl) ?_
  refine Site.mem_live_of_mem_parts (List.mem_cons_of_mem _ (List.mem_singleton.2 rfl)) ?_
  refine Site.mem_live_of_mem_parts (List.mem_cons_of_mem _ (List.mem_singleton.2 rfl)) ?_
  exact Site.mem_live_self _

end TeachingTree.Lowering

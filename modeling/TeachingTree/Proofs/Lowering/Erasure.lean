/-
**The parts that are not lowered have no influence.**

Much of a source tree is never lowered: the operands of the comma operator, the arguments of a call
or an operator that has no rule, what is inside a rejected statement, the condition beside a
variable that is declared in its place, initial values that are not kept, the bodies of functions
that are only declared, the members of implicit records, and members that are no fields.  Of a field
that is looked up only the name and the place matter, and of its type how many vectors it starts
with.

Erasure puts `absent` in all these places, and a type of the same depth in the place of the type of
a field that is looked up.  Two source trees with the same erasure differ in dead parts only; the
theorem of this module is that they have the same outcome.

Main definitions:

* `erase`, `eraseAll`, `eraseVariable` — a source tree without its dead parts;
* `Site.erase` — the same of a site.

Main results:

* `Site.sameScheme_erase`, `Site.parts_erase` — erasure leaves the tables of the scheme as they are;
* `Site.lower_erase` — **a site is lowered to the same as its erasure**;
* `lowerProgram_congr` — **dead parts have no influence**.
-/

import TeachingTree.Proofs.Lowering.Alike
import TeachingTree.Proofs.Lowering.TypeName
import TeachingTree.Proofs.Lowering.Verbosity

set_option relaxedAutoImplicit false
set_option autoImplicit false

namespace TeachingTree

/-- A type inside so many vectors. -/
def SourceType.vectors : Nat → SourceType
  | 0 => .plain { kind := .unknown }
  | depth + 1 => .containing { kind := .vector } (vectors depth)

@[simp] theorem SourceType.vectorDepth_vectors (depth : Nat) :
    (SourceType.vectors depth).vectorDepth = depth := by
  induction depth with
  | zero => rfl
  | succ depth ih => simp [SourceType.vectors, SourceType.vectorDepth, ih]

namespace Lowering

/-! ### Erasure of source trees -/

/-- A variable of which only the place is left. -/
def bareVariable (position : Position) : Variable :=
  .mk { name := "", type := .vectors 0, position } .absent

/-- A field that is looked up: of its type only the depth is left. -/
def eraseKey (key : Field) : Field := { key with type := .vectors key.type.vectorDepth }

/-- A member of a record: nothing is left of members that are no fields. -/
def eraseMember : Node → Node
  | .field f => .field f
  | _ => .absent

mutual

/-- A source tree without the parts that are not lowered. -/
def erase : Node → Node
  | .unary opcode operand isLeading position => .unary opcode (erase operand) isLeading position
  | .binary opcode lhs rhs position =>
    .binary opcode (if opcode = "," then .absent else erase lhs)
      (if opcode = "," then .absent else erase rhs) position
  | .member base key position => .member (erase base) (eraseKey key) position
  | .subscript base index position => .subscript (erase base) (erase index) position
  | .operatorCall operator args position =>
    .operatorCall operator
      (if (operatorUse operator args.length).lowersOperands then eraseAll args
        else args.map fun _ => .absent) position
  | .methodCall method receiver args position =>
    .methodCall method (erase receiver) (eraseAll args) position
  | .call callee args position =>
    .call callee (if callee.isSome then eraseAll args else []) position
  | .compound body position => .compound (eraseAll body) position
  | .ifStmt condition thenBranch elseBranch declared position =>
    .ifStmt (if declared.isSome then .absent else erase condition) (erase thenBranch)
      (erase elseBranch) (declared.map fun v => bareVariable v.position) position
  | .whileStmt condition body declared position =>
    .whileStmt (if declared.isSome then .absent else erase condition) (erase body)
      (declared.map fun v => bareVariable v.position) position
  | .forStmt init condition increment body position =>
    .forStmt (erase init) (erase condition) (erase increment) (erase body) position
  | .doStmt _ _ position => .doStmt .absent .absent position
  | .returnStmt value position => .returnStmt (erase value) position
  | .labelStmt name _ position => .labelStmt name .absent position
  | .declStmt decls position => .declStmt (eraseAll decls) position
  | .var v => .var (eraseVariable v)
  | .function name result params body isDefinition position =>
    .function name result (eraseVariables params) (if isDefinition then erase body else .absent)
      isDefinition position
  | .record name members isImplicit position =>
    .record name (if isImplicit then [] else members.map eraseMember) isImplicit position
  | node => node

/-- Erases each of several trees. -/
def eraseAll : List Node → List Node
  | [] => []
  | node :: nodes => erase node :: eraseAll nodes

/-- A variable without an initial value that is not kept. -/
def eraseVariable : Variable → Variable
  | .mk head init => .mk head (if keepsInit head then erase init else .absent)

/-- Erases each of several variables. -/
def eraseVariables : List Variable → List Variable
  | [] => []
  | v :: vs => eraseVariable v :: eraseVariables vs

end

theorem eraseAll_eq_map (nodes : List Node) : eraseAll nodes = nodes.map erase := by
  induction nodes with
  | nil => rfl
  | cons node nodes ih => rw [eraseAll, ih, List.map_cons]

theorem eraseVariables_eq_map (vs : List Variable) : eraseVariables vs = vs.map eraseVariable := by
  induction vs with
  | nil => rfl
  | cons v vs ih => rw [eraseVariables, ih, List.map_cons]

@[simp] theorem head_eraseVariable (v : Variable) : (eraseVariable v).head = v.head := by
  cases v
  rfl

/-! ### Erasure of sites -/

namespace Site

/-- A site without the parts that are not lowered. -/
def erase : Site → Site
  | .expr node => .expr (Lowering.erase node)
  | .stmt node => .stmt (Lowering.erase node)
  | .decl node => .decl (Lowering.erase node)
  | .unit decls => .unit (eraseAll decls)
  | .var v => .var (eraseVariable v)
  | .field f => .field f
  | .key f => .key (eraseKey f)
  | .member recordName node => .member recordName (eraseMember node)
  | .type name depth => .type name depth
  | .block body => .block (Lowering.erase body)
  | .loopInit init position => .loopInit (Lowering.erase init) position
  | .conditionVariable construct v => .conditionVariable construct (bareVariable v.position)
  | .methodCall method args position => .methodCall method (eraseAll args) position

/-! ### The scheme of erased sites -/

theorem length_eraseAll (nodes : List Node) : (eraseAll nodes).length = nodes.length := by
  rw [eraseAll_eq_map, List.length_map]

/-- Erasure leaves the number of operands as it is. -/
theorem length_eraseOperands (operator : Option String) (args : List Node) :
    (if (operatorUse operator args.length).lowersOperands then eraseAll args
      else args.map fun _ => .absent).length = args.length := by
  split
  · exact length_eraseAll args
  · exact List.length_map ..

/-- Dead parts are all below the root. -/
theorem shell_erase (node : Node) : (Lowering.erase node).shell = node.shell := by
  cases node with
  | operatorCall operator args position =>
      simp only [Lowering.erase, Node.shell]
      split <;> simp only [eraseAll_eq_map, List.map_map, Function.comp_def]
  | declStmt decls position =>
      simp only [Lowering.erase, Node.shell, eraseAll_eq_map, List.map_map, Function.comp_def]
  | var v => simp only [Lowering.erase, Node.shell, head_eraseVariable]
  | _ => rfl

/-- What a lowering that is not verbose does at a site does not depend on dead parts. -/
theorem sameScheme_erase (site : Site) : SameScheme false site.erase site := by
  cases site with
  | expr node => exact sameScheme_expr_of_shell (shell_erase node)
  | stmt node => exact sameScheme_stmt_of_shell (shell_erase node)
  | decl node => exact sameScheme_decl_of_shell (shell_erase node)
  | var v =>
      refine ⟨rfl, rfl, rfl, rfl, fun _ _ => rfl, fun inChain id results => ?_⟩
      simp only [erase, result, head_eraseVariable]
  | member recordName node =>
      refine ⟨rfl, rfl, ?_, rfl, fun _ _ => rfl, fun _ _ _ => rfl⟩
      cases node <;> simp [erase, eraseMember, notes]
  | _ => exact ⟨rfl, rfl, rfl, rfl, fun _ _ => rfl, fun _ _ _ => rfl⟩

/-! ### The parts of erased sites -/

theorem exprParts_erase (node : Node) :
    exprParts (Lowering.erase node) = (exprParts node).map erase := by
  cases node with
  | binary opcode lhs rhs position =>
      by_cases hcomma : opcode = "," <;> simp [Lowering.erase, exprParts, erase, hcomma]
  | operatorCall operator args position =>
      simp only [Lowering.erase, exprParts, length_eraseOperands]
      split <;> simp [eraseAll_eq_map, erase]
  | call callee args position =>
      cases callee <;> simp [Lowering.erase, exprParts, eraseAll_eq_map, erase]
  | _ => rfl

theorem stmtParts_erase (node : Node) :
    stmtParts (Lowering.erase node) = (stmtParts node).map erase := by
  cases node with
  | compound body position => simp [Lowering.erase, stmtParts, eraseAll_eq_map, erase]
  | declStmt decls position => simp [Lowering.erase, stmtParts, eraseAll_eq_map, erase]
  | ifStmt condition thenBranch elseBranch declared position =>
      have habsent : (Lowering.erase elseBranch).isAbsent = elseBranch.isAbsent := by
        cases elseBranch <;> rfl
      cases declared <;> cases helse : elseBranch.isAbsent <;>
        simp [Lowering.erase, stmtParts, ofCondition, erase, habsent, helse]
  | whileStmt condition body declared position => cases declared <;> rfl
  | _ => rfl

theorem declParts_erase (node : Node) :
    declParts (Lowering.erase node) = (declParts node).map erase := by
  cases node with
  | function name resultType params body isDefinition position =>
      cases isDefinition <;>
        simp [Lowering.erase, declParts, eraseVariables_eq_map, ofType, erase]
  | record name members isImplicit position =>
      cases isImplicit <;> simp [Lowering.erase, declParts, erase]
  | _ => rfl

/-- The parts of an erased site are the erased parts.  A field that is looked up is left out: the
name of its type is erased, though it is still lowered. -/
theorem parts_erase {site : Site} (h : ∀ f, site ≠ .key f) :
    site.erase.parts = site.parts.map erase := by
  cases site with
  | expr node => exact exprParts_erase node
  | stmt node => exact stmtParts_erase node
  | decl node => exact declParts_erase node
  | unit decls => simp [erase, parts, eraseAll_eq_map]
  | var v =>
      obtain ⟨head, init⟩ := v
      cases hkeeps : keepsInit head <;>
        simp [erase, parts, eraseVariable, Variable.head, Variable.init, ofType, hkeeps]
  | key f => exact absurd rfl (h f)
  | member recordName node => cases node <;> rfl
  | type name depth => cases depth <;> rfl
  | methodCall method args position => simp [erase, parts, eraseAll_eq_map]
  | _ => rfl

/-! ### Fields that are looked up -/

/-- Of a field that is looked up only the name, the place and the depth of its type matter. -/
theorem lower_key_erase (f : Field) (s : State) :
    lowerFieldKey (eraseKey f) s = lowerFieldKey f s := by
  have hkey : ∀ f : Field, lowerFieldKey f s =
      (.ok (.literal s.nextId f.position "string" (.ofString f.name)),
        { s with nextId := s.nextId + 1 + (f.type.vectorDepth + 1) }) := by
    intro f
    -- the chain of the type is dropped, and its numbers are lost
    simp [lowerFieldKey, Lower.bind_apply, Lower.map_apply, lowerType_apply]
  rw [hkey, hkey, eraseKey, SourceType.vectorDepth_vectors]

/-! ### All sites -/

/-- **A site is lowered to the same as its erasure**, from the same state to the same state. -/
theorem lower_erase (site : Site) (s : State) :
    site.erase.lower false s = site.lower false s := by
  refine alike_map (fun site => ?_) site s
  by_cases hkey : ∃ f, site = .key f
  · obtain ⟨f, rfl⟩ := hkey
    exact .inl (lower_key_erase f)
  · exact .inr ⟨sameScheme_erase site, parts_erase fun f hf => hkey ⟨f, hf⟩⟩

end Site

/-! ### Programs -/

/-- **Dead parts have no influence.**  Two programs that differ only in parts that are not lowered,
and in the types of fields that are looked up, though not in their depths, have the same outcome:
the same document with the same numbers and places, or the same failure.  If the lowering is not
verbose, the log is the same as well. -/
theorem lowerProgram_congr (decls others : List Node) (h : decls.map erase = others.map erase) :
    (∀ verbose, (lowerProgram verbose decls).1 = (lowerProgram verbose others).1) ∧
      lowerProgram false decls = lowerProgram false others := by
  have hquiet : lowerProgram false decls = lowerProgram false others := by
    have hdecls := Site.lower_erase (.unit decls) {}
    have hothers := Site.lower_erase (.unit others) {}
    simp only [Site.erase, eraseAll_eq_map, h] at hdecls hothers
    have hrun : lowerUnit false decls {} = lowerUnit false others {} := hdecls.symm.trans hothers
    exact congrArg (fun run => (run.1, run.2.log)) hrun
  refine ⟨fun verbose => ?_, hquiet⟩
  rw [lowerProgram_verbose verbose false, lowerProgram_verbose verbose false, hquiet]

/-- A record, a function that is only declared, and the function `int main()`, with the given tree
in places of every sort that are not lowered, and a field of the given type that is looked up. -/
def programAround (dead : Node) (keyType : SourceType) : List Node :=
  let integer : SourceType := .plain { kind := .integer }
  let name (n : String) : Node := .reference n integer ⟨3, 1⟩
  let listed : VariableHead := { name := "v", type := integer, initStyle := some .listed }
  let key : Field := { name := "x", type := keyType, position := ⟨1, 14⟩ }
  let body : List Node :=
    [.declStmt [.var (.mk listed dead)] ⟨3, 3⟩,
      .doStmt dead dead ⟨4, 3⟩,
      .labelStmt "again" dead ⟨5, 3⟩,
      .whileStmt dead (name "w") (some (.mk { listed with position := ⟨6, 10⟩ } dead)) ⟨6, 3⟩,
      .binary "," dead dead ⟨7, 3⟩,
      .call none [dead] ⟨8, 3⟩,
      .operatorCall (some "()") [name "f", dead, dead] ⟨9, 3⟩,
      .member (name "r") key ⟨10, 3⟩]
  [.record "R" [.field { name := "x", type := integer }, dead] false ⟨1, 1⟩,
    .record "S" [dead] true ⟨1, 1⟩,
    .function "f" integer [] dead false ⟨2, 1⟩,
    .function "main" integer [] (.compound body .unknown) true ⟨3, 1⟩]

theorem lowerProgram_congr_programAround :
    let decls := programAround (.unmodeled "LAMBDA_EXPR" ⟨9, 9⟩) (.plain { kind := .integer })
    let others := programAround (.integer 1 ⟨3, 3⟩) (.plain { kind := .string })
    decls.map erase = others.map erase ∧ (∃ document, (lowerProgram true decls).1 = .ok document) ∧
      (∀ verbose, (lowerProgram verbose decls).1 = (lowerProgram verbose others).1) ∧
      lowerProgram false decls = lowerProgram false others :=
  ⟨rfl, exists_ok_of_isSome (by decide +kernel), lowerProgram_congr _ _ rfl⟩

end Lowering

end TeachingTree

/-
**What is built can be lowered.**

The lowering stops at nodes that have no rule in their place.  In a tree of the grammar the only
such nodes are the constructs outside the subset, since the lowering goes on from a place to places
and keeps their roles.  The trees that are built from cursors are of the grammar; so a program that
was built has a document, or its lowering stops at a construct that the building of the tree has
marked as being outside the subset.

Main definitions:

* `Site.Stands` — trees of the grammar that stand in a place of a given tree;
* `Site.IsPlaced` — sites that are places of the given tree, with a tree of the grammar in them.

Main results:

* `Site.isPlaced_of_mem_parts`, `Site.isPlaced_of_mem_live` — one step of the lowering, and the
  whole of it, goes from places to places;
* `lowerProgram_of_grammatical` — **a tree of the grammar has a document, or holds the construct at
  which its lowering stops**;
* `lowering_of_buildUnit` — **what is built can be lowered**.
-/

import TeachingTree.Proofs.Building.Grammar
import TeachingTree.Proofs.Lowering.Failure

set_option relaxedAutoImplicit false
set_option autoImplicit false

namespace TeachingTree

/-! ### Expressions in the place of statements -/

/-- A statement of the grammar that is not one by its class is an expression. -/
theorem Grammatical.expression_of_statement {node : Node} (h : Grammatical .statement node)
    (hclass : node.isStatement = false) : Grammatical .expression node := by
  refine h.of_admits ?_
  have hadmits : (node.isStatement || node.isExpression) = true := h.admits
  rwa [hclass, Bool.false_or] at hadmits

namespace Lowering

namespace Site

/-! ### Sites of the grammar -/

/-- A tree of the grammar in some place of the given tree. -/
def Stands (root : Node) (role : Role) (node : Node) : Prop :=
  Grammatical role node ∧ ∃ role', root.Holds role' node

/-- Sites that are places of the given tree, with a tree of the grammar in them. -/
def IsPlaced (root : Node) : Site → Prop
  | .expr node => Stands root .expression node
  | .stmt node => Stands root .statement node
  | .decl node => Stands root .declaration node
  | .unit decls => ∀ decl ∈ decls, Stands root .declaration decl
  | .var v => Stands root .declaration (.var v)
  | .field _ => True
  | .key _ => True
  | .member _ _ => True
  | .type _ _ => True
  | .block body => Stands root .statement body
  | .loopInit init _ => Stands root .statement init
  | .conditionVariable _ _ => True
  | .methodCall _ args _ => ∀ arg ∈ args, Stands root .expression arg

variable {root : Node}

/-- What stands in a place of a tree of the grammar stands in the tree. -/
theorem Stands.place {role role' : Role} {node other : Node} (h : Stands root role node)
    (hplace : (role', other) ∈ node.places) : Stands root role' other := by
  obtain ⟨hgrammatical, _, hholds⟩ := h
  exact ⟨hgrammatical.places _ hplace, role', hholds.deeper hplace⟩

theorem isPlaced_ofType (type : SourceType) : (ofType type).IsPlaced root := trivial

theorem isPlaced_ofCondition (construct : String) (declared : Option Variable) {condition : Node}
    (h : Stands root .expression condition) :
    (ofCondition construct declared condition).IsPlaced root := by
  cases declared with
  | none => exact h
  | some v => trivial

/-! ### The parts of sites of the grammar -/

theorem isPlaced_of_mem_exprParts {node : Node} (h : Stands root .expression node) :
    ∀ part ∈ exprParts node, part.IsPlaced root := by
  cases node with
  | unary opcode operand isLeading position =>
      exact List.forall_mem_singleton.2 (h.place (by simp [Node.places]))
  | binary opcode lhs rhs position =>
      simp only [exprParts]
      split
      · exact List.forall_mem_nil _
      · exact List.forall_mem_cons.2 ⟨h.place (by simp [Node.places]),
          List.forall_mem_singleton.2 (h.place (by simp [Node.places]))⟩
  | member base declared position =>
      exact List.forall_mem_cons.2 ⟨h.place (by simp [Node.places]),
        List.forall_mem_singleton.2 trivial⟩
  | subscript base index position =>
      exact List.forall_mem_cons.2 ⟨h.place (by simp [Node.places]),
        List.forall_mem_singleton.2 (h.place (by simp [Node.places]))⟩
  | operatorCall operator args position =>
      simp only [exprParts]
      split
      · exact List.forall_mem_map.2 fun arg harg => h.place (by simp [Node.places, harg])
      · exact List.forall_mem_nil _
  | methodCall called receiver args position =>
      exact List.forall_mem_cons.2 ⟨fun arg harg => h.place (by simp [Node.places, harg]),
        List.forall_mem_singleton.2 (h.place (by simp [Node.places]))⟩
  | call callee args position =>
      cases callee with
      | none => exact List.forall_mem_nil _
      | some callee =>
          exact List.forall_mem_map.2 fun arg harg => h.place (by simp [Node.places, harg])
  | _ => exact List.forall_mem_nil _

theorem isPlaced_of_mem_stmtParts {node : Node} (h : Stands root .statement node) :
    ∀ part ∈ stmtParts node, part.IsPlaced root := by
  cases node with
  | absent | nullStmt => exact List.forall_mem_nil _
  | compound body position =>
      exact List.forall_mem_map.2 fun stmt hstmt => h.place (by simp [Node.places, hstmt])
  | declStmt decls position =>
      exact List.forall_mem_map.2 fun decl hdecl => h.place (by simp [Node.places, hdecl])
  | ifStmt condition thenBranch elseBranch declared position =>
      have hcondition : Stands root .expression condition := h.place (by simp [Node.places])
      have hthen : Stands root .statement thenBranch := h.place (by simp [Node.places])
      have helse : Stands root .statement elseBranch := h.place (by simp [Node.places])
      rw [stmtParts, List.forall_mem_cons, List.forall_mem_cons]
      refine ⟨isPlaced_ofCondition "if" declared hcondition, hthen, ?_⟩
      split
      · exact List.forall_mem_nil _
      · exact List.forall_mem_singleton.2 helse
  | whileStmt condition body declared position =>
      have hcondition : Stands root .expression condition := h.place (by simp [Node.places])
      have hbody : Stands root .statement body := h.place (by simp [Node.places])
      exact List.forall_mem_cons.2 ⟨isPlaced_ofCondition "while" declared hcondition,
        List.forall_mem_singleton.2 hbody⟩
  | forStmt init condition increment body position =>
      have hinit : Stands root .statement init := h.place (by simp [Node.places])
      have hcondition : Stands root .expression condition := h.place (by simp [Node.places])
      have hincrement : Stands root .expression increment := h.place (by simp [Node.places])
      have hbody : Stands root .statement body := h.place (by simp [Node.places])
      simp [stmtParts, IsPlaced, hinit, hcondition, hincrement, hbody]
  | returnStmt value position =>
      exact List.forall_mem_singleton.2 (h.place (by simp [Node.places]))
  -- a rejected statement has no parts
  | doStmt | breakStmt | continueStmt | gotoStmt | labelStmt | unsupportedStmt =>
      exact List.forall_mem_nil _
  | _ => exact List.forall_mem_singleton.2 ⟨h.1.expression_of_statement rfl, h.2⟩

/-- The block of a function is made of its own body also where it is only declared: it has none
then. -/
theorem ite_body_eq {name : String} {result : SourceType} {params : List Variable} {body : Node}
    {isDefinition : Bool} {position : Position}
    (h : Grammatical .declaration (.function name result params body isDefinition position)) :
    (if isDefinition then body else .absent) = body := by
  have hpromise : body ≠ .absent ↔ isDefinition = true := h.regular.promise
  cases isDefinition with
  | true => rfl
  | false =>
      have hbody : body = .absent :=
        Classical.not_not.1 fun hbody => by simpa using hpromise.1 hbody
      rw [hbody, ite_self]

theorem isPlaced_of_mem_declParts {node : Node} (h : Stands root .declaration node) :
    ∀ part ∈ declParts node, part.IsPlaced root := by
  cases node with
  | function name result params body isDefinition position =>
      have hbody : Stands root .statement body := h.place (by simp [Node.places])
      rw [declParts, ite_body_eq h.1, List.forall_mem_cons, List.forall_mem_append]
      refine ⟨isPlaced_ofType result, List.forall_mem_map.2 fun param hparam => ?_,
        List.forall_mem_singleton.2 hbody⟩
      exact h.place (by simp [Node.places, hparam])
  | var v => exact List.forall_mem_singleton.2 h
  | field f => exact List.forall_mem_singleton.2 trivial
  | record name members isImplicit position =>
      simp only [declParts]
      split
      · exact List.forall_mem_nil _
      · exact List.forall_mem_map.2 fun _ _ => trivial
  | _ => exact List.forall_mem_nil _

/-- **One step of the lowering goes from places to places.** -/
theorem isPlaced_of_mem_parts {site : Site} (h : site.IsPlaced root) :
    ∀ part ∈ site.parts, part.IsPlaced root := by
  cases site with
  | expr node => exact isPlaced_of_mem_exprParts h
  | stmt node => exact isPlaced_of_mem_stmtParts h
  | decl node => exact isPlaced_of_mem_declParts h
  | unit decls => exact List.forall_mem_map.2 h
  | var v =>
      rw [parts, List.forall_mem_cons]
      refine ⟨isPlaced_ofType _, ?_⟩
      split
      · exact List.forall_mem_singleton.2 (h.place (by simp [Node.places]))
      · exact List.forall_mem_nil _
  | field f => exact List.forall_mem_singleton.2 (isPlaced_ofType _)
  | key f => exact List.forall_mem_singleton.2 (isPlaced_ofType _)
  | member recordName node =>
      cases node with
      | field f => exact List.forall_mem_singleton.2 trivial
      | _ => exact List.forall_mem_nil _
  | type name depth =>
      cases depth with
      | zero => exact List.forall_mem_nil _
      | succ depth => exact List.forall_mem_singleton.2 trivial
  | block body => exact List.forall_mem_singleton.2 h
  | loopInit init position => exact List.forall_mem_singleton.2 h
  | conditionVariable construct v => exact List.forall_mem_nil _
  | methodCall called args position => exact List.forall_mem_map.2 h

/-- **All live sites of a place are places.** -/
theorem isPlaced_of_mem_live {site : Site} (h : site.IsPlaced root) :
    ∀ other ∈ site.live, other.IsPlaced root := by
  induction site using Site.induction with
  | h site ih =>
      rw [live_eq, List.forall_mem_cons]
      refine ⟨h, fun other hother => ?_⟩
      obtain ⟨part, hpart, hlive⟩ := List.mem_flatMap.1 hother
      exact ih part hpart (isPlaced_of_mem_parts h part hpart) other hlive

/-- In its place, a tree of the grammar offends only as a construct outside the subset. -/
theorem unsupported_of_isPlaced {site : Site} (h : site.IsPlaced root) {e : LoweringError}
    (he : site.offence? = some e) : ∃ role kindName position,
      e = .unsupported kindName position ∧ root.Holds role (.unmodeled kindName position) := by
  cases site with
  | expr node =>
      have hadmits : node.isExpression = true := h.1.admits
      cases node with
      | unmodeled kindName position =>
          obtain ⟨role, hholds⟩ := h.2
          exact ⟨role, kindName, position, (Option.some.inj he).symm, hholds⟩
      | _ => simp [offence?, hasExprRule, Node.isExpression] at he hadmits
  | decl node =>
      have hadmits : node.isDeclaration = true := h.1.admits
      cases node <;> simp [offence?, hasDeclRule, Node.isDeclaration, Node.isMember] at he hadmits
  | _ => simp [offence?] at he

end Site

/-! ### Programs -/

/-- **A program of the grammar has a document, or holds the construct at which its lowering
stops.** -/
theorem lowerProgram_of_grammatical {decls : List Node}
    (h : ∀ decl ∈ decls, Grammatical .declaration decl) (verbose : Bool) (path : String) :
    (∃ id statements, (lowerProgram verbose decls).1 = .ok (.document id statements)) ∨
      ∃ role kindName position,
        (lowerProgram verbose decls).1 = .error (.unsupported kindName position) ∧
          (Node.unit decls path).Holds role (.unmodeled kindName position) := by
  have hunit : (Site.unit decls).IsPlaced (.unit decls path) := fun decl hdecl =>
    ⟨h decl hdecl, .declaration, .place (List.mem_map.2 ⟨decl, hdecl, rfl⟩)⟩
  obtain ⟨-, herror, hok⟩ := lowerProgram_failure verbose decls
  cases houtcome : (lowerProgram verbose decls).1 with
  | ok document =>
      obtain ⟨id, statements, rfl⟩ := eq_document_of_lowerUnit houtcome
      exact .inl ⟨id, statements, rfl⟩
  | error e =>
      obtain ⟨before, culprit, later, hlive, -, hoffence, -⟩ := (herror e).1 houtcome
      have hculprit := Site.isPlaced_of_mem_live hunit culprit (by simp [hlive])
      obtain ⟨role, kindName, position, rfl, hholds⟩ :=
        Site.unsupported_of_isPlaced hculprit hoffence
      exact .inr ⟨role, kindName, position, rfl, hholds⟩

end Lowering

namespace Building

open Lowering

/-- **What is built can be lowered.**  Whatever the cursors of a program are, in a tree that is
built of them every place holds a node that its role admits.  All types are complete, so that the
innermost element of a vector is always known; a function has a body exactly if it is a definition;
and a variable has an initial value only if it is given directly.

The lowering of such a tree makes a document, or it stops at a construct outside the subset that
stands in the tree.  It never stops because a node has no rule in its place. -/
theorem lowering_of_buildUnit (names : Text.CharacterNames) (mainFile : String)
    (mainFileOnly : Bool) (cursors : List Cursor) (path : String) {s after : Building.State}
    {decls : List Node}
    (h : buildUnit names mainFile mainFileOnly cursors s = (.ok decls, after)) :
    (∀ role node, (Node.unit decls path).Holds role node →
      role.admits node = true ∧ node.KeepsPromise ∧
        ∀ type ∈ node.types, type.Complete ∧
          ∃ element, type.vectorElement? = some element ∧ element.kind ≠ .vector) ∧
    ∀ verbose,
      (∃ id statements, (lowerProgram verbose decls).1 = .ok (.document id statements)) ∨
        ∃ role kindName position,
          (lowerProgram verbose decls).1 = .error (.unsupported kindName position) ∧
            (Node.unit decls path).Holds role (.unmodeled kindName position) := by
  have hdecls : ∀ decl ∈ decls, Grammatical .declaration decl :=
    yields_buildUnit names mainFile mainFileOnly cursors s decls after h
  refine ⟨fun role node hnode => ?_, fun verbose => lowerProgram_of_grammatical hdecls verbose path⟩
  have hgrammatical : Grammatical role node := by
    refine Grammatical.of_holds ?_ hnode
    exact List.forall_mem_map.2 hdecls
  exact ⟨hgrammatical.admits, hgrammatical.regular.promise, fun type htype =>
    ⟨hgrammatical.regular.complete type htype,
      (hgrammatical.regular.complete type htype).exists_vectorElement⟩⟩

/-- The cursors of `int main() { std::vector<std::vector<int>> v; [] {}; }`, where the parser
exposes no template arguments. -/
def lambdaCursors : List Cursor :=
  let place (line column : Int) : Option Place := some ⟨line, column, 0, some "main.cpp"⟩
  let vectors : CursorType :=
    .mk { sort := .record, spelling := "std::vector<std::vector<int> >" } none none []
  let integer : CursorType := .mk { sort := .integer, spelling := "int" } none none []
  let v : Cursor :=
    .mk { kind := .varDecl, category := .declaration, spelling := "v", location := place 2 3,
          type := vectors } [] []
  let lambda : Cursor :=
    .mk { kind := .other "LAMBDA_EXPR", category := .expression, location := place 3 3 } [] []
  let body : Cursor := .mk { kind := .compoundStmt } [.mk { kind := .declStmt } [v] [], lambda] []
  [.mk { kind := .functionDecl, category := .declaration, spelling := "main",
         location := place 1 1, resultType := integer, isDefinition := true } [body] []]

/-- The tree that is built of the cursors. -/
def lambdaProgram : List Node :=
  let integer : SourceType := .plain { kind := .integer, spelling := "int" }
  let vectors : SourceType :=
    .containing { kind := .vector, spelling := "vector<vector<int>>" }
      (.containing { kind := .vector, spelling := "vector<int>" } integer)
  [.function "main" integer []
    (.compound [.declStmt [.var (.mk { name := "v", type := vectors, position := ⟨2, 3⟩ } .absent)]
        .unknown,
      .unmodeled "LAMBDA_EXPR" ⟨3, 3⟩] .unknown) true ⟨1, 1⟩]

theorem lowering_of_lambdaCursors :
    (∃ after, buildUnit .empty "main.cpp" true lambdaCursors {} = (.ok lambdaProgram, after)) ∧
      (lowerProgram false lambdaProgram).1 = .error (.unsupported "LAMBDA_EXPR" ⟨3, 3⟩) ∧
      ∃ role,
        (Node.unit lambdaProgram "main.cpp").Holds role (.unmodeled "LAMBDA_EXPR" ⟨3, 3⟩) := by
  have hbuild : buildUnit .empty "main.cpp" true lambdaCursors {} =
      (.ok lambdaProgram, ⟨true, [missingArgumentsMessage "std::vector<std::vector<int> >"]⟩) := by
    with_unfolding_all rfl
  have hlower : (lowerProgram false lambdaProgram).1 =
      .error (.unsupported "LAMBDA_EXPR" ⟨3, 3⟩) := by
    with_unfolding_all rfl
  obtain ⟨-, hlowering⟩ :=
    lowering_of_buildUnit .empty "main.cpp" true lambdaCursors "main.cpp" hbuild
  obtain ⟨id, statements, hok⟩ | ⟨role, kindName, position, herror, hholds⟩ := hlowering false
  · rw [hlower] at hok
    cases hok
  · rw [hlower] at herror
    cases herror
    exact ⟨⟨_, hbuild⟩, hlower, role, hholds⟩

end Building

end TeachingTree

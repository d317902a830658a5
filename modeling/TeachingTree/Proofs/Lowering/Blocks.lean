/-
**Blocks are lowered up to their arrangement.**

The statements of a program can be arranged in blocks in many ways that the schema does not tell
apart.  A block in a block may be dissolved, empty statements may be left out, variables that are
declared together may be declared one by one, and a statement that stands for a block may be put
into braces.  This module makes one such change at one place of a source tree a relation, and shows
that programs which are joined by any number of changes, in either direction and at any places, have
the same outcome, down to the numbers.

The first clause in the header of a loop does not stand for a block: braces around it are a
statement that the schema rejects.

Main definitions:

* `StandsFor` — statements of a block that stand for others;
* `Rearranges` — one change at one place of a source tree;
* `RearrangesProgram` — one change at one place of a program;
* `LoweredAlike` — nodes that are lowered alike in every role.

Main results:

* `lowerStmts_standsFor` — what a statement stands for is lowered as the statement;
* `LoweredAlike.plug` — **nodes that are lowered alike are so in every place**;
* `Rearranges.loweredAlike` — one change has no influence;
* `lowerProgram_rearranged` — **programs that are arranged differently have the same outcome**.
-/

import TeachingTree.Proofs.Lowering.Alike
import Mathlib.Logic.Relation

set_option relaxedAutoImplicit false
set_option autoImplicit false

namespace TeachingTree.Lowering

/-! ### Changes -/

/-- An entry of a block that stands for other entries, one after the other. -/
inductive StandsFor : Node → List Node → Prop where
  | block (body : List Node) (position : Position) : StandsFor (.compound body position) body
  | empty (position : Position) : StandsFor (.nullStmt position) []
  | nothing : StandsFor .absent []
  | declarations (decls : List (Node × Position)) (position : Position) :
      StandsFor (.declStmt (decls.map Prod.fst) position)
        (decls.map fun decl => .declStmt [decl.1] decl.2)

/-- One change at one place of a source tree. -/
inductive Rearranges : Node → Node → Prop where
  | entry {stmt : Node} {stmts : List Node} (before after : List Node) (position : Position)
      (h : StandsFor stmt stmts) :
      Rearranges (.compound (before ++ stmt :: after) position)
        (.compound (before ++ stmts ++ after) position)
  | braces (frame : Frame) (stmt : Node) (position : Position) (hframe : frame.isBlock = true)
      (hstmt : stmt.isAbsent = false) :
      Rearranges (frame.plug stmt) (frame.plug (.compound [stmt] position))
  | inside (frame : Frame) {node other : Node} (h : Rearranges node other) :
      Rearranges (frame.plug node) (frame.plug other)

/-- One change at one place of a program. -/
inductive RearrangesProgram : List Node → List Node → Prop where
  | decl (before after : List Node) {node other : Node} (h : Rearranges node other) :
      RearrangesProgram (before ++ node :: after) (before ++ other :: after)

/-! ### Entries of blocks -/

section Entries

variable (verbose : Bool)

theorem lowerStmts_append (stmts others : List Node) :
    lowerStmts verbose (stmts ++ others) = do
      let nodes ← lowerStmts verbose stmts
      let more ← lowerStmts verbose others
      return nodes ++ more := by
  simp [Site.lowerStmts_eq, Site.lowerAll_append, Site.spliceAll]

/-- Declarations one by one are lowered as the declarations together. -/
theorem lowerStmts_declarations (decls : List (Node × Position)) :
    lowerStmts verbose (decls.map fun decl => .declStmt [decl.1] decl.2) =
      lowerDecls verbose (decls.map Prod.fst) := by
  induction decls with
  | nil => simp [lowerStmts, lowerDecls]
  | cons decl decls ih => simp only [List.map_cons, lowerStmts, lowerStmt, lowerDecls, ih]

/-- A group of declarations contributes what the declarations do. -/
theorem lowerStmts_declStmt (decls : List Node) (position : Position) :
    lowerStmts verbose [.declStmt decls position] = lowerDecls verbose decls := by
  rcases decls with _ | ⟨decl, _ | ⟨decl', decls⟩⟩
  · simp [lowerStmts, lowerStmt, lowerDecls, Schema.splice]
  · simp [lowerStmts, lowerStmt, lowerDecls]
  · simp [lowerStmts, lowerStmt, Schema.splice]

/-- **What a statement stands for is lowered as the statement.** -/
theorem lowerStmts_standsFor {stmt : Node} {stmts : List Node} (h : StandsFor stmt stmts) :
    lowerStmts verbose [stmt] = lowerStmts verbose stmts := by
  cases h with
  | block body position => simp [lowerStmts, lowerStmt, Schema.splice]
  | empty position => simp [lowerStmts, lowerStmt, Schema.splice]
  | nothing => simp [lowerStmts, lowerStmt, Schema.splice]
  | declarations decls position => rw [lowerStmts_declStmt, lowerStmts_declarations]

/-- A block may hold the entries that one of its entries stands for. -/
theorem lowerStmt_compound_standsFor {stmt : Node} {stmts : List Node} (h : StandsFor stmt stmts)
    (before after : List Node) (position : Position) :
    lowerStmt verbose (.compound (before ++ stmt :: after) position) =
      lowerStmt verbose (.compound (before ++ stmts ++ after) position) := by
  have hentries : lowerStmts verbose (before ++ stmt :: after) =
      lowerStmts verbose (before ++ stmts ++ after) := by
    rw [List.append_cons, lowerStmts_append, lowerStmts_append, lowerStmts_standsFor verbose h,
      ← lowerStmts_append, ← lowerStmts_append]
  simp only [lowerStmt, hentries]

/-- Braces around a statement that stands for a block make no other block. -/
theorem lower_block_braces (stmt : Node) (position : Position) :
    (Site.block (.compound [stmt] position)).lower verbose = (Site.block stmt).lower verbose := by
  simp [Site.lower, lowerStmt, lowerStmts, makeBlock, Schema.splice]

end Entries

/-! ### Nodes that are lowered alike -/

open Site

/-- Nodes that are lowered alike in every role. -/
structure LoweredAlike (verbose : Bool) (node other : Node) : Prop where
  expr : Alike verbose (.expr node) (.expr other)
  stmt : Alike verbose (.stmt node) (.stmt other)
  decl : Alike verbose (.decl node) (.decl other)
  member : ∀ recordName, Alike verbose (.member recordName node) (.member recordName other)
  isAbsent_eq : node.isAbsent = other.isAbsent

variable {verbose : Bool}

/-- Only a field of a record has a part, and there is nothing below a field. -/
theorem parts_member_shell (recordName : String) (node : Node) :
    (Site.member recordName node.shell).parts = (Site.member recordName node).parts := by
  cases node <;> rfl

/-- Nodes with the same shell are lowered alike if the parts that they have as expressions and as
declarations are, and they themselves are as statements. -/
theorem LoweredAlike.of_shell {node other : Node} (hshell : node.shell = other.shell)
    (hexpr : List.Forall₂ (Alike verbose) (exprParts node) (exprParts other))
    (hdecl : List.Forall₂ (Alike verbose) (declParts node) (declParts other))
    (hstmt : Alike verbose (.expr node) (.expr other) →
      Alike verbose (.stmt node) (.stmt other)) : LoweredAlike verbose node other where
  expr := alike_of_parts (sameScheme_expr_of_shell hshell) hexpr
  stmt := hstmt (alike_of_parts (sameScheme_expr_of_shell hshell) hexpr)
  decl := alike_of_parts (sameScheme_decl_of_shell hshell) hdecl
  member recordName := by
    refine alike_of_parts (sameScheme_member_of_shell hshell recordName) ?_
    rw [← parts_member_shell, hshell, parts_member_shell]
    exact forall₂_alike_refl _
  isAbsent_eq := by rw [← node.isAbsent_shell, hshell, other.isAbsent_shell]

/-! ### Places -/

/-- Nodes that are lowered alike as far as it matters in the place of a frame. -/
structure AlikeIn (verbose : Bool) (frame : Frame) (node other : Node) : Prop where
  block : Alike verbose (.block node) (.block other)
  isAbsent_eq : node.isAbsent = other.isAbsent
  roles : frame.isBlock = false → LoweredAlike verbose node other

/-- Nodes that are lowered alike make blocks that are. -/
theorem LoweredAlike.block {node other : Node} (h : LoweredAlike verbose node other) :
    Alike verbose (.block node) (.block other) :=
  alike_of_parts ⟨rfl, rfl, rfl, rfl, fun _ _ => rfl, fun _ _ _ => rfl⟩ (.cons h.stmt .nil)

theorem LoweredAlike.alikeIn {node other : Node} (h : LoweredAlike verbose node other)
    (frame : Frame) : AlikeIn verbose frame node other where
  block := h.block
  isAbsent_eq := h.isAbsent_eq
  roles _ := h

/-- Where a statement stands for a block, braces around it do not matter. -/
theorem alikeIn_braces {frame : Frame} {stmt : Node} (hframe : frame.isBlock = true)
    (hstmt : stmt.isAbsent = false) (position : Position) :
    AlikeIn verbose frame stmt (.compound [stmt] position) where
  block s := congrFun (lower_block_braces verbose stmt position).symm s
  isAbsent_eq := hstmt
  roles h := by simp [hframe] at h

theorem alike_loopInit {node other : Node} (h : LoweredAlike verbose node other)
    (position : Position) : Alike verbose (.loopInit node position) (.loopInit other position) :=
  alike_of_parts ⟨rfl, rfl, rfl, rfl, fun _ _ => rfl, fun _ _ _ => rfl⟩ (.cons h.stmt .nil)

theorem alike_ofCondition {node other : Node} (h : LoweredAlike verbose node other)
    (construct : String) (declared : Option Variable) :
    Alike verbose (ofCondition construct declared node)
      (ofCondition construct declared other) := by
  cases declared with
  | none => exact h.expr
  | some v => exact Alike.refl _

theorem alike_var {node other : Node} (h : LoweredAlike verbose node other)
    (head : VariableHead) : Alike verbose (.var (.mk head node)) (.var (.mk head other)) := by
  refine alike_of_parts ⟨rfl, rfl, rfl, rfl, fun _ _ => rfl, fun _ _ _ => rfl⟩
    (.cons (Alike.refl _) ?_)
  cases hkeeps : keepsInit head with
  | false => simp only [Variable.head, hkeeps]; exact .nil
  | true => simp only [Variable.head, hkeeps]; exact .cons h.expr .nil

/-- Parts that are the same except for one, which is lowered alike. -/
theorem forall₂_alike_replace {α : Type} {f : α → Site} {a b : α}
    (h : Alike verbose (f a) (f b)) (before after : List α) :
    List.Forall₂ (Alike verbose) ((before ++ a :: after).map f) ((before ++ b :: after).map f) := by
  simp only [List.map_append, List.map_cons]
  exact List.rel_append (forall₂_alike_refl _) (.cons h (forall₂_alike_refl _))

section Plug

variable {frame : Frame} {node other : Node} (h : AlikeIn verbose frame node other)
include h

theorem forall₂_exprParts_plug :
    List.Forall₂ (Alike verbose) (exprParts (frame.plug node)) (exprParts (frame.plug other)) := by
  cases frame with
  | unaryOperand => exact .cons (h.roles rfl).expr .nil
  | left opcode rhs position =>
      simp only [Frame.plug, exprParts]
      split
      · exact .nil
      · exact .cons (h.roles rfl).expr (forall₂_alike_refl _)
  | right opcode lhs position =>
      simp only [Frame.plug, exprParts]
      split
      · exact .nil
      · exact .cons (Alike.refl _) (.cons (h.roles rfl).expr .nil)
  | memberBase => exact .cons (h.roles rfl).expr (forall₂_alike_refl _)
  | subscriptBase => exact .cons (h.roles rfl).expr (forall₂_alike_refl _)
  | subscriptIndex => exact .cons (Alike.refl _) (.cons (h.roles rfl).expr .nil)
  | operatorArg operator before after position =>
      simp only [Frame.plug, exprParts, List.length_append, List.length_cons]
      split
      · exact forall₂_alike_replace (h.roles rfl).expr before after
      · exact .nil
  | methodReceiver => exact .cons (Alike.refl _) (.cons (h.roles rfl).expr .nil)
  | methodArg called receiver before after position =>
      refine .cons (alike_of_parts ?_ ?_) (forall₂_alike_refl _)
      · exact ⟨rfl, rfl, rfl, rfl, fun _ _ => rfl, fun _ _ _ => rfl⟩
      · exact forall₂_alike_replace (h.roles rfl).expr before after
  | callArg callee before after position =>
      cases callee with
      | none => exact .nil
      | some callee => exact forall₂_alike_replace (h.roles rfl).expr before after
  | _ => exact .nil

theorem forall₂_stmtParts_plug
    (hexpr : Alike verbose (.expr (frame.plug node)) (.expr (frame.plug other))) :
    List.Forall₂ (Alike verbose) (stmtParts (frame.plug node)) (stmtParts (frame.plug other)) := by
  cases frame with
  | entry before after position => exact forall₂_alike_replace (h.roles rfl).stmt before after
  | ifCondition thenBranch elseBranch declared position =>
      exact .cons (alike_ofCondition (h.roles rfl) "if" declared) (forall₂_alike_refl _)
  | ifThen => exact .cons (Alike.refl _) (.cons h.block (forall₂_alike_refl _))
  | ifElse condition thenBranch declared position =>
      refine .cons (Alike.refl _) (.cons (Alike.refl _) ?_)
      rw [h.isAbsent_eq]
      split
      · exact .nil
      · exact .cons h.block .nil
  | ifVariable => exact .cons (fun _ => rfl) (forall₂_alike_refl _)
  | whileCondition body declared position =>
      exact .cons (alike_ofCondition (h.roles rfl) "while" declared) (forall₂_alike_refl _)
  | whileBody => exact .cons (Alike.refl _) (.cons h.block .nil)
  | whileVariable => exact .cons (fun _ => rfl) (forall₂_alike_refl _)
  | forInit condition increment body position =>
      exact .cons (alike_loopInit (h.roles rfl) position) (forall₂_alike_refl _)
  | forCondition => exact .cons (Alike.refl _) (.cons (h.roles rfl).expr (forall₂_alike_refl _))
  | forIncrement =>
      exact .cons (Alike.refl _)
        (.cons (Alike.refl _) (.cons (h.roles rfl).expr (forall₂_alike_refl _)))
  | forBody =>
      exact .cons (Alike.refl _) (.cons (Alike.refl _) (.cons (Alike.refl _) (.cons h.block .nil)))
  | returned => exact .cons (h.roles rfl).expr .nil
  | declaration before after position =>
      exact forall₂_alike_replace (h.roles rfl).decl before after
  -- a rejected statement has no parts
  | doBody | doCondition | labelled => exact .nil
  | _ => exact .cons hexpr .nil

theorem forall₂_declParts_plug :
    List.Forall₂ (Alike verbose) (declParts (frame.plug node)) (declParts (frame.plug other)) := by
  cases frame with
  | initialValue head => exact .cons (alike_var (h.roles rfl) head) .nil
  | parameter name result before head after body isDefinition position =>
      exact .cons (Alike.refl _) (List.rel_append
        (forall₂_alike_replace (alike_var (h.roles rfl) head) before after) (forall₂_alike_refl _))
  | functionBody name result params isDefinition position =>
      refine .cons (Alike.refl _) (List.rel_append (forall₂_alike_refl _) (.cons ?_ .nil))
      cases isDefinition with
      | false => exact Alike.refl _
      | true => exact h.block
  | recordMember name before after isImplicit position =>
      cases isImplicit with
      | false => exact forall₂_alike_replace ((h.roles rfl).member name) before after
      | true => exact .nil
  | _ => exact .nil

theorem AlikeIn.plug : LoweredAlike verbose (frame.plug node) (frame.plug other) := by
  have hshell := frame.shell_plug node other
  exact LoweredAlike.of_shell hshell (forall₂_exprParts_plug h) (forall₂_declParts_plug h)
    fun hexpr => alike_of_parts (sameScheme_stmt_of_shell hshell) (forall₂_stmtParts_plug h hexpr)

end Plug

/-- **Nodes that are lowered alike are so in every place.** -/
theorem LoweredAlike.plug {node other : Node} (h : LoweredAlike verbose node other)
    (frame : Frame) : LoweredAlike verbose (frame.plug node) (frame.plug other) :=
  (h.alikeIn frame).plug

/-! ### Programs -/

/-- **One change has no influence** on the lowering of a node, in whatever role. -/
theorem Rearranges.loweredAlike {node other : Node} (h : Rearranges node other) :
    LoweredAlike verbose node other := by
  induction h with
  | entry before after position h =>
      refine LoweredAlike.of_shell rfl .nil .nil fun _ s => ?_
      rw [lower_stmt, lower_stmt, lowerStmt_compound_standsFor verbose h]
  | braces frame stmt position hframe hstmt => exact (alikeIn_braces hframe hstmt position).plug
  | inside frame h ih => exact ih.plug frame

theorem RearrangesProgram.lowerProgram_eq {decls others : List Node}
    (h : RearrangesProgram decls others) :
    lowerProgram verbose decls = lowerProgram verbose others := by
  cases h with
  | @decl before after node other h =>
      have hunit : Alike verbose (.unit (before ++ node :: after))
          (.unit (before ++ other :: after)) :=
        alike_of_parts ⟨rfl, rfl, rfl, rfl, fun _ _ => rfl, fun _ _ _ => rfl⟩
          (forall₂_alike_replace h.loweredAlike.decl before after)
      exact congrArg (fun run => (run.1, run.2.log)) (hunit {})

/-- **Programs that are arranged differently have the same outcome.**  Two programs are joined by
any number of changes, each made or undone anywhere: a block in a block dissolved, an empty
statement left out, declarations taken apart, braces put around a branch or a body.  Their documents
are the same with all numbers, or their failures are, and so is the log. -/
theorem lowerProgram_rearranged {decls others : List Node}
    (h : Relation.EqvGen RearrangesProgram decls others) :
    lowerProgram verbose decls = lowerProgram verbose others := by
  induction h with
  | rel decls others h => exact h.lowerProgram_eq
  | refl decls => rfl
  | symm decls others _ ih => exact ih.symm
  | trans decls others third _ _ ih ih' => exact ih.trans ih'

section Example

/-- The call `f()`. -/
def callOfF : Node := .call (some "f") [] ⟨6, 5⟩

/-- The variable `int name`. -/
def integerNamed (name : String) : Node :=
  .var (.mk { name, type := .plain { kind := .integer } } .absent)

/-- The loop `while (w)` with the given body. -/
def loopOf (body : Node) : Node :=
  .whileStmt (.reference "w" (.plain { kind := .bool }) ⟨5, 10⟩) body none ⟨5, 3⟩

/-- The function `int main()` with the given statements. -/
def mainOf (stmts : List Node) : List Node :=
  [.function "main" (.plain { kind := .integer }) [] (.compound stmts ⟨1, 12⟩) true ⟨1, 1⟩]

/-- A change of the body of `main` is one at a place of the program. -/
theorem rearrangesProgram_mainOf {stmts others : List Node}
    (h : Rearranges (.compound stmts ⟨1, 12⟩) (.compound others ⟨1, 12⟩)) :
    RearrangesProgram (mainOf stmts) (mainOf others) :=
  .decl [] [] (.inside (.functionBody "main" _ [] true ⟨1, 1⟩) h)

/-- The program `int main() { { { f(); } } ; int a, b; while (w) f(); }`. -/
def nestedMain : List Node :=
  mainOf [.compound [.compound [callOfF] ⟨2, 5⟩] ⟨2, 3⟩, .nullStmt ⟨3, 3⟩,
    .declStmt [integerNamed "a", integerNamed "b"] ⟨4, 3⟩, loopOf callOfF]

/-- The program `int main() { f(); int a; int b; while (w) { f(); } }`. -/
def flatMain : List Node :=
  mainOf [callOfF, .declStmt [integerNamed "a"] ⟨4, 3⟩, .declStmt [integerNamed "b"] ⟨4, 10⟩,
    loopOf (.compound [callOfF] ⟨6, 3⟩)]

/-- The first program is joined to the second by five changes, one after the other. -/
theorem eqvGen_nestedMain_flatMain :
    Relation.EqvGen RearrangesProgram nestedMain flatMain := by
  let together : Node := .declStmt [integerNamed "a", integerNamed "b"] ⟨4, 3⟩
  let apart : List Node :=
    [.declStmt [integerNamed "a"] ⟨4, 3⟩, .declStmt [integerNamed "b"] ⟨4, 10⟩]
  let rest : List Node := [.nullStmt ⟨3, 3⟩, together, loopOf callOfF]
  have hinner : RearrangesProgram nestedMain (mainOf (.compound [callOfF] ⟨2, 3⟩ :: rest)) :=
    rearrangesProgram_mainOf
      (.inside (.entry [] rest _) (.entry [] [] ⟨2, 3⟩ (.block [callOfF] _)))
  have houter : RearrangesProgram (mainOf (.compound [callOfF] ⟨2, 3⟩ :: rest))
      (mainOf (callOfF :: rest)) :=
    rearrangesProgram_mainOf (.entry [] rest _ (.block [callOfF] _))
  have hempty : RearrangesProgram (mainOf (callOfF :: rest))
      (mainOf [callOfF, together, loopOf callOfF]) :=
    rearrangesProgram_mainOf (.entry [callOfF] [together, loopOf callOfF] _ (.empty _))
  have happart : RearrangesProgram (mainOf [callOfF, together, loopOf callOfF])
      (mainOf (callOfF :: apart ++ [loopOf callOfF])) :=
    rearrangesProgram_mainOf (.entry [callOfF] [loopOf callOfF] _
      (.declarations [(integerNamed "a", ⟨4, 3⟩), (integerNamed "b", ⟨4, 10⟩)] ⟨4, 3⟩))
  have hbraces : RearrangesProgram (mainOf (callOfF :: apart ++ [loopOf callOfF])) flatMain :=
    rearrangesProgram_mainOf (.inside (.entry (callOfF :: apart) [] _)
      (.braces (.whileBody _ none ⟨5, 3⟩) callOfF ⟨6, 3⟩ rfl rfl))
  exact .trans _ _ _ (.rel _ _ hinner) (.trans _ _ _ (.rel _ _ houter) (.trans _ _ _
    (.rel _ _ hempty) (.trans _ _ _ (.rel _ _ happart) (.rel _ _ hbraces))))

theorem lowerProgram_rearranged_nestedMain :
    Relation.EqvGen RearrangesProgram nestedMain flatMain ∧
      (lowerProgram true nestedMain).1.toOption.isSome = true ∧
      lowerProgram true nestedMain = lowerProgram true flatMain :=
  ⟨eqvGen_nestedMain_flatMain, by decide +kernel,
    lowerProgram_rearranged eqvGen_nestedMain_flatMain⟩

end Example

end TeachingTree.Lowering

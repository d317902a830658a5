/-
Lowering of declarations, statements and whole programs.

A statement becomes one node, nothing, or the group of nodes that a compound statement or a group
of declarations stands for.  Statements that the schema rejects become messages; what is inside
them is not looked at.

Main definitions:

* `lowerVariable`, `lowerField`, `lowerMembers` — declared entities;
* `lowerCondition`, `rejected?` — parts of statements;
* `lowerStmt`, `lowerDecl` — statements and declarations;
* `lowerUnit` — the document of a whole program;
* `lowerProgram` — the same from a fresh state.
-/

import TeachingTree.Lowering.Expression
import TeachingTree.Text.Upper

set_option relaxedAutoImplicit false
set_option autoImplicit false

namespace TeachingTree.Lowering

/-! ### Declared entities -/

/-- Whether the initial value of a variable is kept: it is a direct one, and the variable is
neither a record nor a vector. -/
def keepsInit (head : VariableHead) : Bool :=
  (head.initStyle.any InitStyle.isDirect)
    && !(head.type.kind = .record) && !(head.type.kind = .vector)

/-- A result in the place of an initial value, where a group counts as nothing. -/
def singleNode (node : Schema) : Schema := if node.isGroup then .absent else node

/-- Lowers a variable or a parameter. -/
def lowerVariable (v : Variable) : Lower Schema := do
  let head := v.head
  let id ← Lower.newId
  let dataType ← lowerType head.type
  let init ← if keepsInit head then lowerExpr v.init else pure .absent
  return .var id head.position head.name dataType head.isReference
    (head.isConst || head.type.shape.isConst) (singleNode init) head.isParameter

/-- Lowers variables in order. -/
def lowerVariables : List Variable → Lower (List Schema)
  | [] => pure []
  | v :: vs => do
    let node ← lowerVariable v
    let nodes ← lowerVariables vs
    return node :: nodes

/-- Lowers a field. -/
def lowerField (f : Field) : Lower Schema := do
  let id ← Lower.newId
  let dataType ← lowerType f.type
  return .field id f.position f.name dataType

/-- Lowers the fields among the members of a record; the other members are skipped, and logged when
that is asked for. -/
def lowerMembers (verbose : Bool) (recordName : String) : List Node → Lower (List Schema)
  | [] => pure []
  | .field f :: members => do
    let node ← lowerField f
    let nodes ← lowerMembers verbose recordName members
    return node :: nodes
  | member :: members => do
    if verbose then
      Lower.log ("Skipping member " ++ member.memberLabel ++ " of struct '" ++ recordName ++ "'.")
    lowerMembers verbose recordName members

/-! ### Parts of statements -/

/-- Lowers a condition; where a variable is declared in it, an error stands in its place. -/
def lowerCondition (construct : String) (declared : Option Variable) (condition : Lower Schema) :
    Lower Schema :=
  match declared with
  | some v =>
    makeMessage "error" "condition-variable"
      ("Variable declarations are not allowed in " ++ construct ++ " conditions") v.position
  | none => condition

/-- A statement that the schema rejects: its tag, the description of the error, and its place. -/
def rejected? : Node → Option (String × String × Position)
  | .doStmt _ _ position =>
    some ("do/while statement", "Do/While statements are not allowed", position)
  | .breakStmt position => some ("break statement", "Breaks are not allowed", position)
  | .continueStmt position => some ("continue statement", "Continues are not allowed", position)
  | .gotoStmt _ position => some ("goto", "Goto is not allowed", position)
  | .labelStmt _ _ position => some ("label", "Labels are not allowed", position)
  | .unsupportedStmt label position =>
    some (label, Text.capitalise label ++ "s are not allowed", position)
  | _ => none

/-- The first clause of a loop header must be one statement. -/
def lowerForInit (init : Schema) (position : Position) : Lower Schema :=
  if init.isGroup then
    makeMessage "error" "compoundStmt" "Compound Statements are not allowed in for loop init"
      position
  else pure init

/-! ### Statements and declarations -/

mutual

/-- Lowers a statement. -/
def lowerStmt (verbose : Bool) : Node → Lower Schema
  | .absent => pure .absent
  | .compound body _ => do return .group (← lowerStmts verbose body)
  | .ifStmt condition thenBranch elseBranch declared position => do
    let id ← Lower.newId
    let condition ← lowerCondition "if" declared (lowerExpr condition)
    let thenBody ← lowerStmt verbose thenBranch
    let thenBlock ← makeBlock thenBody
    if elseBranch.isAbsent then
      return .conditional id position condition thenBlock .absent
    else
      let elseBody ← lowerStmt verbose elseBranch
      let elseBlock ← makeBlock elseBody
      return .conditional id position condition thenBlock elseBlock
  | .whileStmt condition body declared position => do
    let id ← Lower.newId
    let condition ← lowerCondition "while" declared (lowerExpr condition)
    let body ← lowerStmt verbose body
    let block ← makeBlock body
    return .whileLoop id position condition block
  | .forStmt init condition increment body position => do
    let id ← Lower.newId
    let init ← lowerStmt verbose init
    let init ← lowerForInit init position
    let condition ← lowerExpr condition
    let post ← lowerExpr increment
    let body ← lowerStmt verbose body
    let block ← makeBlock body
    return .forLoop id position init condition post block
  | .returnStmt value position => do
    let id ← Lower.newId
    let expression ← lowerExpr value
    return .returned id position expression
  | .declStmt decls _ =>
    match decls with
    | [decl] => lowerDecl verbose decl
    | decls => do return .group (← lowerDecls verbose decls)
  | .nullStmt _ => pure .absent
  | node =>
    match rejected? node with
    | some (tag, description, position) => makeMessage "error" tag description position
    | none => lowerExpr node

/-- Lowers statements in order; each contributes a node, nothing, or the items of a group. -/
def lowerStmts (verbose : Bool) : List Node → Lower (List Schema)
  | [] => pure []
  | stmt :: stmts => do
    let node ← lowerStmt verbose stmt
    let nodes ← lowerStmts verbose stmts
    return node.splice ++ nodes

/-- Lowers a declaration. -/
def lowerDecl (verbose : Bool) : Node → Lower Schema
  | .function name result params body isDefinition position => do
    let id ← Lower.newId
    let returnType ← lowerType result
    let parameters ← lowerVariables params
    let body ← if isDefinition then lowerStmt verbose body else pure .absent
    let block ← makeBlock body
    return .function id position name returnType parameters block
  | .var v => lowerVariable v
  | .field f => lowerField f
  | .record name members isImplicit position =>
    if isImplicit then pure .absent
    else do
      let id ← Lower.newId
      let attributes ← lowerMembers verbose name members
      return .struct id position name attributes
  | .method _ _ => pure .absent
  | .unsupportedDecl kindName position => do
    if verbose then
      Lower.log ("Skipping unsupported declaration " ++ kindName ++ position.logSuffix ++ ".")
    return .absent
  | node => Lower.stop (.noDeclarationRule node.className node.position?)

/-- Lowers declarations in order; each contributes a node, nothing, or the items of a group. -/
def lowerDecls (verbose : Bool) : List Node → Lower (List Schema)
  | [] => pure []
  | decl :: decls => do
    let node ← lowerDecl verbose decl
    let nodes ← lowerDecls verbose decls
    return node.splice ++ nodes

end

/-! ### Programs -/

/-- Lowers the declarations of a program to its document. -/
def lowerUnit (verbose : Bool) (decls : List Node) : Lower Schema := do
  let id ← Lower.newId
  let statements ← lowerDecls verbose decls
  return .document id statements

/-- The document of a program, or why there is none, and the lines logged on the way. -/
def lowerProgram (verbose : Bool) (decls : List Node) :
    Except LoweringError Schema × List String :=
  let (outcome, state) := (lowerUnit verbose decls).run {}
  (outcome, state.log)

end TeachingTree.Lowering

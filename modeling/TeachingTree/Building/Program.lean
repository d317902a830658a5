/-
Declarations, statements and programs of the source tree from cursors.

Main definitions:

* `variableOf`, `recordOf` — variables and records;
* `ForClauses`, `placeClauses` — the clauses of a loop, told apart by where they start;
* `statementNode` — the node of a statement from its parts, and `statement`, `declaration`, which
  supply the parts;
* `buildUnit` — the declarations of a program.
-/

import TeachingTree.Building.Expression

set_option relaxedAutoImplicit false
set_option autoImplicit false

namespace TeachingTree.Building

/-! ### Variables -/

/-- Whether values of a type are constant, if there is a type. -/
def isConstType : Option CursorType → Bool
  | some type => type.head.isConst
  | none => false

/-- A variable or parameter without its initial value. -/
def variableHead (context : Context) (head : CursorHead) (isParameter : Bool) :
    Build VariableHead := do
  let type := head.type.withoutReference
  return {
    name := head.spelling
    type := ← pointedType context type
    isConst := head.type.head.isConst || isConstType type
    isReference := head.type.head.sort = .reference
    isParameter
    position := head.position }

/-- The initial value of a variable and how it is given: the last expression among the children
counts, and a list of values has a style but no value. -/
def initialValue (context : Context) (head : CursorHead) (children : List Cursor) :
    Build (Option InitStyle × Node) :=
  match (children.filter Cursor.isExpression).getLast? with
  | none => return (none, .absent)
  | some value =>
    let style :=
      if value.kind = .initList then some .listed else initStyle? head.nameOffset head.tokens
    if (style.map InitStyle.isDirect).getD false then do return (style, ← expression context value)
    else return (style, .absent)

/-- The variable of a cursor. -/
def variableOf (context : Context) (cursor : Cursor) : Build Variable := do
  let head ← variableHead context cursor.head false
  let (initStyle, init) ← initialValue context cursor.head cursor.children
  return .mk { head with initStyle } init

/-- The parameter of a cursor. -/
def parameterOf (context : Context) (cursor : Cursor) : Build Variable := do
  return .mk (← variableHead context cursor.head true) .absent

/-! ### Records -/

/-- The member of a record for a cursor below it: a field, the name of a method, or a record that is
left out.  Other cursors are no members. -/
def memberOf (context : Context) (cursor : Cursor) : Build (Option Node) :=
  let head := cursor.head
  if head.kind = .fieldDecl then do
    return some (.field (← fieldOf context head.spelling head.type head.location))
  else if head.kind.isMethod || head.kind = .functionTemplate then
    return some (.method head.spelling head.position)
  else if head.kind.isRecord then return some (.unsupportedDecl head.kind.name head.position)
  else return none

/-- The record of a cursor. -/
def recordOf (context : Context) (head : CursorHead) (children : List Cursor) : Build Node := do
  let members ← Build.inOrder (children.map (memberOf context))
  let name := recordName ⟨head.kind, head.spelling, head.location, head.isAnonymous⟩
  return .record name (members.filterMap id) false head.position

/-! ### Loops -/

/-- The clauses in the header of a loop. -/
structure ForClauses where
  /-- What runs before the loop. -/
  init : Node := .absent
  /-- The test. -/
  condition : Node := .absent
  /-- What runs after each round. -/
  increment : Node := .absent

/-- The clauses with one more: a cursor belongs to the first clause that ends after its start.  It
is a statement in the first clause and an expression in the others; a variable declared in the
second clause is left out, and so is a cursor outside the header. -/
def placeClause (context : Context) (header : ForHeader) (clauses : ForClauses) (cursor : Cursor)
    (node : Build Node) : Build ForClauses :=
  let start := cursor.head.startOffset
  if start < header.first then do return { clauses with init := ← node }
  else if start < header.second then
    if cursor.kind = .varDecl then return clauses
    else do return { clauses with condition := ← expression context cursor }
  else if start < header.close then do
    return { clauses with increment := ← expression context cursor }
  else return clauses

/-- The clauses of cursors, each given with its node as a statement. -/
def placeClauses (context : Context) (header : ForHeader) (clauses : ForClauses) :
    List (Cursor × Build Node) → Build ForClauses
  | [] => return clauses
  | (cursor, node) :: rest => do
    let clauses ← placeClause context header clauses cursor node
    placeClauses context header clauses rest

/-- The loop of a cursor: its last child is the body, the others are the clauses. -/
def forNode (context : Context) (head : CursorHead) (children : List Cursor)
    (nodes : List (Build Node)) : Build Node :=
  match nodes.getLast? with
  | none => return .forStmt .absent .absent .absent .absent head.position
  | some body => do
    let header := ForHeader.ofTokens head.tokens
    let clauses ← placeClauses context header {} (children.zip nodes).dropLast
    return .forStmt clauses.init clauses.condition clauses.increment (← body) head.position

/-! ### Statements -/

/-- The variable that a condition declares: a variable before all other children. -/
def conditionVariable (context : Context) : List Cursor → Build (Option Variable)
  | cursor :: _ =>
    if cursor.kind = .varDecl then do return some (← variableOf context cursor) else return none
  | [] => return none

/-- The number of children that a variable in the condition takes. -/
def conditionVariableCount : List Cursor → Nat
  | cursor :: _ => if cursor.kind = .varDecl then 1 else 0
  | [] => 0

/-- The node at an index, which is absent beyond the last one. -/
def nodeAt (nodes : List (Build Node)) (index : Nat) : Build Node :=
  nodes.getD index (pure .absent)

/-- The node of the child at an index as an expression, which is absent beyond the last one. -/
def expressionAt (context : Context) (children : List Cursor) (index : Nat) : Build Node :=
  match children[index]? with
  | some child => expression context child
  | none => return .absent

/-- What is said of the statements that are known and have no form in the tree. -/
def unsupportedLabel? : CursorKind → Option String
  | .switchStmt => some "switch statement"
  | .rangeForStmt => some "range-based for statement"
  | .tryStmt => some "try statement"
  | _ => none

/-- The node of a statement, given the nodes of its children as statements and as declarations. -/
def statementNode (context : Context) (head : CursorHead) (children arguments : List Cursor)
    (nodes declared : List (Build Node)) : Build Node :=
  let position := head.position
  match head.kind with
  | .compoundStmt => do return .compound (← Build.inOrder nodes) position
  | .ifStmt => do
    let declared ← conditionVariable context children
    let first := conditionVariableCount children
    let condition ← expressionAt context children first
    let thenBranch ← nodeAt nodes (first + 1)
    let elseBranch ← nodeAt nodes (first + 2)
    return .ifStmt condition thenBranch elseBranch declared position
  | .whileStmt => do
    let declared ← conditionVariable context children
    let first := conditionVariableCount children
    let condition ← expressionAt context children first
    let body ← nodeAt nodes (first + 1)
    return .whileStmt condition body declared position
  | .forStmt => forNode context head children nodes
  | .doStmt => do
    let body ← nodeAt nodes 0
    let condition ← expressionAt context children 1
    return .doStmt body condition position
  | .returnStmt => do return .returnStmt (← expressionAt context children 0) position
  | .declStmt => do return .declStmt (← Build.inOrder declared) position
  | .breakStmt => return .breakStmt position
  | .continueStmt => return .continueStmt position
  | .nullStmt => return .nullStmt position
  | .gotoStmt => return .gotoStmt ((children.head?.map (·.head.spelling)).getD "") position
  | .labelStmt => do return .labelStmt head.spelling (← nodeAt nodes 0) position
  | kind =>
    match unsupportedLabel? kind with
    | some label => return .unsupportedStmt label position
    | none =>
      if head.isExpression then expression context (.mk head children arguments)
      else return .unmodeled kind.name position

/-! ### Declarations -/

/-- The node of a function, given the node of its body. -/
def functionNode (context : Context) (head : CursorHead) (parameters : List Cursor)
    (body : Option (Build Node)) : Build Node := do
  let params ← Build.inOrder (parameters.map (parameterOf context))
  let result ← valueType context head.resultType
  match if head.isDefinition then body else none with
  | some body => return .function head.spelling result params (← body) true head.position
  | none => return .function head.spelling result params .absent false head.position

/-- The node of a declaration, given the node of the body among its children. -/
def declarationNode (context : Context) (head : CursorHead) (children arguments : List Cursor)
    (body : Option (Build Node)) : Build Node :=
  let kind := head.kind
  if kind = .functionDecl then functionNode context head arguments body
  else if kind = .varDecl then do
    return .var (← variableOf context (.mk head children arguments))
  else if kind = .fieldDecl then do
    return .field (← fieldOf context head.spelling head.type head.location)
  else if kind.isRecord then recordOf context head children
  else if kind.isMethod then return .method head.spelling head.position
  else return .unsupportedDecl kind.name head.position

mutual

/-- The node of a cursor as a statement. -/
def statement (context : Context) : Cursor → Build Node
  | .mk head children arguments => fun s =>
    statementNode context head children arguments (statements context children)
      (declarations context children) s

/-- The nodes of cursors as statements. -/
def statements (context : Context) : List Cursor → List (Build Node)
  | [] => []
  | cursor :: rest => statement context cursor :: statements context rest

/-- The node of a cursor as a declaration. -/
def declaration (context : Context) : Cursor → Build Node
  | .mk head children arguments => fun s =>
    declarationNode context head children arguments (body context children) s

/-- The nodes of cursors as declarations. -/
def declarations (context : Context) : List Cursor → List (Build Node)
  | [] => []
  | cursor :: rest => declaration context cursor :: declarations context rest

/-- The node of the first block among cursors. -/
def body (context : Context) : List Cursor → Option (Build Node)
  | [] => none
  | .mk head children _ :: rest =>
    if head.kind = .compoundStmt then
      some do return .compound (← Build.inOrder (statements context children)) head.position
    else body context rest

end

/-! ### Programs -/

/-- Whether a cursor at the top of a program is one of its declarations. -/
def isOwnDeclaration (context : Context) (cursor : Cursor) : Bool :=
  cursor.head.category = .declaration && context.counts cursor.head.location

/-- What holds for the program whose cursors are given. -/
def Context.ofCursors (names : Text.CharacterNames) (mainFile : String) (mainFileOnly : Bool)
    (cursors : List Cursor) : Context :=
  { mainFile, mainFileOnly, macros := .ofCursors cursors, names }

/-- The declarations of a program whose cursors are given. -/
def buildUnit (names : Text.CharacterNames) (mainFile : String) (mainFileOnly : Bool)
    (cursors : List Cursor) : Build (List Node) :=
  let context := Context.ofCursors names mainFile mainFileOnly cursors
  Build.inOrder ((cursors.filter (isOwnDeclaration context)).map (declaration context))

end TeachingTree.Building

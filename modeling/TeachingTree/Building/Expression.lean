/-
Expressions of the source tree from cursors.

Casts, parentheses, temporaries and constructions from a single argument are looked through.  What
is known of a cursor is turned into a node by one function, `expressionNode`, which gets the nodes
of the parts of the cursor as actions and runs those that it needs; `expression` supplies them.

Main definitions:

* `literalText` — the token of a literal, macros resolved;
* `operatorName?` — the operator that a function overloads;
* `ExpressionParts`, `expressionNode` — the parts of an expression and the node they make;
* `expression` — the node of a cursor.
-/

import TeachingTree.Building.TypeName
import TeachingTree.Cursor.Tokens
import TeachingTree.Literal.Quoted

set_option relaxedAutoImplicit false
set_option autoImplicit false

namespace TeachingTree.Building

open Text

/-! ### Literals -/

/-- The text of a literal: its first token with macros resolved, or its spelling if it has no
tokens. -/
def literalText (macros : MacroTable) (head : CursorHead) : String :=
  match head.tokens with
  | [] => head.spelling
  | token :: _ => macros.resolve token.spelling

/-- The node of an integer: the number the parser computed, or else the one that is written. -/
def integerNode (macros : MacroTable) (head : CursorHead) : Node :=
  match head.value with
  | some (.integer n) => .integer n head.position
  | _ => match Literal.decodeInteger (literalText macros head) with
    | .ok n => .integer n head.position
    | .error _ => .unmodeled head.kind.name head.position

/-- The node of a floating-point number: the number the parser computed, or else the one that is
written. -/
def floatingNode (macros : MacroTable) (head : CursorHead) : Build Node :=
  match head.value with
  | some (.integer n) => match Binary64.ofInt? n with
    | some x => return .floating x head.position
    | none => Build.stop .integerTooLarge
  | some (.floating x) => return .floating x head.position
  | none => match Literal.decodeFloating (literalText macros head) with
    | .ok x => return .floating x head.position
    | .error .tooLarge => Build.stop .tooLarge
    | .error _ => return .unmodeled head.kind.name head.position

/-- The node of a character: the value of its token, which may be more than a character. -/
def characterNode (context : Context) (head : CursorHead) : Build Node :=
  match Literal.decodeQuoted context.names (literalText context.macros head) with
  | .ok value => return .character value head.position
  | .error e => Build.stop e

/-- The node of a text: the texts of all its tokens one after the other. -/
def stringNode (context : Context) (head : CursorHead) : Build Node :=
  match Literal.decodePieces context.names
      (head.tokens.map fun token => context.macros.expand token.spelling) with
  | .ok points => return .string points head.position
  | .error e => Build.stop e

/-! ### Fields -/

/-- The source type of a type, references looked through. -/
def valueType (context : Context) (type : CursorType) : Build SourceType :=
  pointedType context type.withoutReference

/-- The field of a name, a type and a place. -/
def fieldOf (context : Context) (spelling : String) (type : CursorType) (place : Option Place) :
    Build Field := do
  return ⟨spelling, ← valueType context type, Place.position place⟩

/-! ### Calls -/

/-- The operator that a function of the given name overloads: what follows the word `operator` on
its line, if no other line follows. -/
def operatorName? (spelling : String) : Option String :=
  match after? "operator" spelling.toList with
  | none => none
  | some rest =>
    if (rest.head?.map isWordChar).getD false then none
    else
      let name := dropBlank rest
      let line := name.takeWhile (· != '\n')
      let remaining := name.drop line.length
      if remaining = [] ∨ remaining = ['\n'] then some (String.ofList (trimBlank line)) else none

/-- Whether a call without a known function copies its single argument: both have the same record
type. -/
def isCopy (type : CursorType) : List Cursor → Bool
  | [argument] =>
    let own := type.canonical.head
    own.sort = .record &&
      match argument.head.type.withoutReference with
      | some argumentType => argumentType.canonical.head.spelling == own.spelling
      | none => false
  | _ => false

/-- Whether a call constructs a value, possibly as a copy. -/
def isConstruction (head : CursorHead) (written : List Cursor) : Bool :=
  match head.referent with
  | some referent => referent.kind = .constructor
  | none => isCopy head.type written

/-- Whether a call converts a value to another type. -/
def isConversion (head : CursorHead) : Bool :=
  match head.referent with
  | some referent => referent.kind = .conversion
  | none => false

/-- Whether the first child of a call names the called function as a member. -/
def callsMember (spelling : String) : List Cursor → Bool
  | callee :: _ => callee.kind = .memberRef && callee.head.spelling == spelling
  | [] => false

/-! ### Nodes -/

/-- The nodes of the parts of an expression, as actions that have not run. -/
structure ExpressionParts where
  /-- The expressions among the children. -/
  operands : List (Build Node)
  /-- The arguments that are written. -/
  arguments : List (Build Node)
  /-- The first expression below the first child. -/
  receiver : Option (Build Node)
  /-- The first expression below the first child that names a member. -/
  converted : Option (Build Node)

/-- The node of an operator with one operand: its first token if the operator stands before the
operand, and else its last. -/
def unaryNode (head : CursorHead) (operands : List Cursor) (parts : ExpressionParts) :
    Build Node :=
  match operands, parts.operands, head.tokens with
  | [operand], [node], first :: rest =>
    let isLeading := first.start < operand.head.startOffset
    let token := if isLeading then first else (first :: rest).getLast (List.cons_ne_nil _ _)
    return .unary token.spelling (← node) isLeading head.position
  | _, _, _ => return .unmodeled head.kind.name head.position

/-- The node of an operator with two operands. -/
def binaryNode (head : CursorHead) (operands : List Cursor) (parts : ExpressionParts) :
    Build Node :=
  match operands, parts.operands with
  | [left, _], [lhs, rhs] =>
    return .binary (operatorAfter left.head.stopOffset head.tokens) (← lhs) (← rhs) head.position
  | _, _ => return .unmodeled head.kind.name head.position

/-- The node of a member of a value. -/
def memberNode (context : Context) (head : CursorHead) (parts : ExpressionParts) : Build Node :=
  match head.referent, parts.operands with
  | some referent, base :: _ =>
    if referent.kind = .fieldDecl then do
      let base ← base
      let declared ← fieldOf context referent.spelling referent.type referent.location
      return .member base declared head.startPosition
    else return .unmodeled head.kind.name head.position
  | _, _ => return .unmodeled head.kind.name head.position

/-- The node of a call that neither constructs nor converts. -/
def plainCallNode (head : CursorHead) (children : List Cursor) (parts : ExpressionParts) :
    Build Node := do
  let arguments ← Build.inOrder parts.arguments
  if callsMember head.spelling children then
    match parts.receiver with
    | some receiver => return .methodCall head.spelling (← receiver) arguments head.position
    | none => return .unmodeled "CXX_THIS_EXPR" head.position
  else match operatorName? head.spelling with
    | some name => return .operatorCall (head.referent.map fun _ => name) arguments head.position
    | none => return .call (head.referent.map (·.spelling)) arguments head.position

/-- The node of a call.  A construction from one argument is that argument, and a conversion is the
value it converts. -/
def callNode (head : CursorHead) (children written : List Cursor) (parts : ExpressionParts) :
    Build Node :=
  if isConstruction head written then
    match parts.arguments with
    | [argument] => argument
    | _ => return .unmodeled "CXX_CONSTRUCT_EXPR" head.position
  else if isConversion head then
    match parts.converted with
    | some value => value
    | none => plainCallNode head children parts
  else plainCallNode head children parts

/-- The node of a cursor that only wraps another expression. -/
def wrappedNode (head : CursorHead) (parts : ExpressionParts) : Build Node :=
  match parts.operands with
  | [] => return .absent
  | [inner] => inner
  | _ => return .unmodeled head.kind.name head.position

/-- The node of an expression. -/
def expressionNode (context : Context) (head : CursorHead) (children arguments : List Cursor)
    (parts : ExpressionParts) : Build Node :=
  let operands := children.filter Cursor.isExpression
  let position := head.position
  match head.kind with
  | .integerLiteral => return integerNode context.macros head
  | .floatingLiteral => floatingNode context.macros head
  | .characterLiteral => characterNode context head
  | .stringLiteral => stringNode context head
  | .boolLiteral => return .bool (literalText context.macros head == "true") position
  | .declRef => return .reference head.spelling (← nameType context head.type) position
  | .unaryOperator => unaryNode head operands parts
  | .binaryOperator => binaryNode head operands parts
  | .compoundAssignment => binaryNode head operands parts
  | .memberRef => memberNode context head parts
  | .subscript =>
    match parts.operands with
    | [base, index] => return .subscript (← base) (← index) position
    | _ => return .unmodeled head.kind.name position
  | .call =>
    let written := arguments.filter fun argument => !argument.isDefaultArgument
    callNode head children written parts
  | kind =>
    if kind.isTransparent then wrappedNode head parts else return .unmodeled kind.name position

mutual

/-- The node of a cursor as an expression. -/
def expression (context : Context) : Cursor → Build Node
  | .mk head children arguments => fun s =>
    expressionNode context head children arguments
      { operands := expressions context children
        arguments := writtenArguments context arguments
        receiver := receiver context children
        converted := converted context children } s

/-- The nodes of the expressions among cursors. -/
def expressions (context : Context) : List Cursor → List (Build Node)
  | [] => []
  | cursor :: rest =>
    if cursor.isExpression then expression context cursor :: expressions context rest
    else expressions context rest

/-- The nodes of the arguments that are written. -/
def writtenArguments (context : Context) : List Cursor → List (Build Node)
  | [] => []
  | argument :: rest =>
    if argument.isDefaultArgument then writtenArguments context rest
    else expression context argument :: writtenArguments context rest

/-- The node of the first expression below the first cursor. -/
def receiver (context : Context) : List Cursor → Option (Build Node)
  | [] => none
  | .mk _ children _ :: _ => (expressions context children).head?

/-- The node of the first expression below the first cursor that names a member. -/
def converted (context : Context) : List Cursor → Option (Build Node)
  | [] => none
  | .mk head children _ :: rest =>
    if head.kind = .memberRef then (expressions context children).head?
    else converted context rest

end

end TeachingTree.Building

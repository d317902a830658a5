/-
**Places in nodes.**

A node holds other nodes in places of its own: the operand of an operator, the branches of a choice,
the entries of a block.  A *frame* is a node with one of its places left open, and whatever is put
into the place makes a node of it again.  What is left of a node when all its places are emptied is
its *shell*.

Main definitions:

* `Frame`, `Frame.plug` — a node with an open place, and the node with the place taken;
* `Frame.isBlock` — the places of statements that stand for blocks;
* `Node.shell` — a node without what is below it.

Main results:

* `Frame.shell_plug` — what stands in a place is not seen in the shell.
-/

import TeachingTree.Source.Node

set_option relaxedAutoImplicit false
set_option autoImplicit false

namespace TeachingTree

/-! ### Shells -/

/-- A node without what is below it.  Of its operands and its declarations only the number is
left. -/
def Node.shell : Node → Node
  | .unary opcode _ isLeading position => .unary opcode .absent isLeading position
  | .binary opcode _ _ position => .binary opcode .absent .absent position
  | .member _ _ position =>
    .member .absent { name := "", type := .plain { kind := .unknown } } position
  | .subscript _ _ position => .subscript .absent .absent position
  | .operatorCall operator args position =>
    .operatorCall operator (args.map fun _ => .absent) position
  | .methodCall called _ _ position => .methodCall called .absent [] position
  | .call callee _ position => .call callee [] position
  | .compound _ position => .compound [] position
  | .ifStmt _ _ _ _ position => .ifStmt .absent .absent .absent none position
  | .whileStmt _ _ _ position => .whileStmt .absent .absent none position
  | .forStmt _ _ _ _ position => .forStmt .absent .absent .absent .absent position
  | .doStmt _ _ position => .doStmt .absent .absent position
  | .returnStmt _ position => .returnStmt .absent position
  | .labelStmt name _ position => .labelStmt name .absent position
  | .declStmt decls position => .declStmt (decls.map fun _ => .absent) position
  | .var v => .var (.mk v.head .absent)
  | .function name result _ _ isDefinition position =>
    .function name result [] .absent isDefinition position
  | .record name _ isImplicit position => .record name [] isImplicit position
  | .unit _ path => .unit [] path
  | node => node

theorem Node.isAbsent_shell (node : Node) : node.shell.isAbsent = node.isAbsent := by
  cases node <;> rfl

/-! ### Frames -/

/-- A node with one of its places left open. -/
inductive Frame where
  | unaryOperand (opcode : String) (isLeading : Bool) (position : Position)
  | left (opcode : String) (rhs : Node) (position : Position)
  | right (opcode : String) (lhs : Node) (position : Position)
  | memberBase (declared : Field) (position : Position)
  | subscriptBase (index : Node) (position : Position)
  | subscriptIndex (base : Node) (position : Position)
  | operatorArg (operator : Option String) (before after : List Node) (position : Position)
  | methodReceiver (called : String) (args : List Node) (position : Position)
  | methodArg (called : String) (receiver : Node) (before after : List Node) (position : Position)
  | callArg (callee : Option String) (before after : List Node) (position : Position)
  | entry (before after : List Node) (position : Position)
  | ifCondition (thenBranch elseBranch : Node) (declared : Option Variable) (position : Position)
  | ifThen (condition elseBranch : Node) (declared : Option Variable) (position : Position)
  | ifElse (condition thenBranch : Node) (declared : Option Variable) (position : Position)
  | ifVariable (condition thenBranch elseBranch : Node) (head : VariableHead) (position : Position)
  | whileCondition (body : Node) (declared : Option Variable) (position : Position)
  | whileBody (condition : Node) (declared : Option Variable) (position : Position)
  | whileVariable (condition body : Node) (head : VariableHead) (position : Position)
  | forInit (condition increment body : Node) (position : Position)
  | forCondition (init increment body : Node) (position : Position)
  | forIncrement (init condition body : Node) (position : Position)
  | forBody (init condition increment : Node) (position : Position)
  | doBody (condition : Node) (position : Position)
  | doCondition (body : Node) (position : Position)
  | returned (position : Position)
  | labelled (name : String) (position : Position)
  | declaration (before after : List Node) (position : Position)
  | initialValue (head : VariableHead)
  | parameter (name : String) (result : SourceType) (before : List Variable) (head : VariableHead)
      (after : List Variable) (body : Node) (isDefinition : Bool) (position : Position)
  | functionBody (name : String) (result : SourceType) (params : List Variable)
      (isDefinition : Bool) (position : Position)
  | recordMember (name : String) (before after : List Node) (isImplicit : Bool)
      (position : Position)
  | unitDecl (before after : List Node) (path : String)

namespace Frame

/-- The node with the open place taken. -/
def plug (node : Node) : Frame → Node
  | unaryOperand opcode isLeading position => .unary opcode node isLeading position
  | left opcode rhs position => .binary opcode node rhs position
  | right opcode lhs position => .binary opcode lhs node position
  | memberBase declared position => .member node declared position
  | subscriptBase index position => .subscript node index position
  | subscriptIndex base position => .subscript base node position
  | operatorArg operator before after position =>
    .operatorCall operator (before ++ node :: after) position
  | methodReceiver called args position => .methodCall called node args position
  | methodArg called receiver before after position =>
    .methodCall called receiver (before ++ node :: after) position
  | callArg callee before after position => .call callee (before ++ node :: after) position
  | entry before after position => .compound (before ++ node :: after) position
  | ifCondition thenBranch elseBranch declared position =>
    .ifStmt node thenBranch elseBranch declared position
  | ifThen condition elseBranch declared position =>
    .ifStmt condition node elseBranch declared position
  | ifElse condition thenBranch declared position =>
    .ifStmt condition thenBranch node declared position
  | ifVariable condition thenBranch elseBranch head position =>
    .ifStmt condition thenBranch elseBranch (some (.mk head node)) position
  | whileCondition body declared position => .whileStmt node body declared position
  | whileBody condition declared position => .whileStmt condition node declared position
  | whileVariable condition body head position =>
    .whileStmt condition body (some (.mk head node)) position
  | forInit condition increment body position => .forStmt node condition increment body position
  | forCondition init increment body position => .forStmt init node increment body position
  | forIncrement init condition body position => .forStmt init condition node body position
  | forBody init condition increment position => .forStmt init condition increment node position
  | doBody condition position => .doStmt node condition position
  | doCondition body position => .doStmt body node position
  | returned position => .returnStmt node position
  | labelled name position => .labelStmt name node position
  | declaration before after position => .declStmt (before ++ node :: after) position
  | initialValue head => .var (.mk head node)
  | parameter name result before head after body isDefinition position =>
    .function name result (before ++ .mk head node :: after) body isDefinition position
  | functionBody name result params isDefinition position =>
    .function name result params node isDefinition position
  | recordMember name before after isImplicit position =>
    .record name (before ++ node :: after) isImplicit position
  | unitDecl before after path => .unit (before ++ node :: after) path

/-- Whether the place is that of a statement which stands for a block: a branch of a choice, or the
body of a loop or of a function. -/
def isBlock : Frame → Bool
  | ifThen .. => true
  | ifElse .. => true
  | whileBody .. => true
  | forBody .. => true
  | functionBody .. => true
  | _ => false

/-- What stands in a place is not seen in the shell. -/
theorem shell_plug (frame : Frame) (node other : Node) :
    (frame.plug node).shell = (frame.plug other).shell := by
  cases frame <;> simp [plug, Node.shell, Variable.head]

end Frame

end TeachingTree

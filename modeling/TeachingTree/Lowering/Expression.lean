/-
Lowering of expressions.

An expression becomes one node, nothing (a stream), or, for the inner part of a chain of stream
operators, the group of arguments collected so far.  The outermost operator of a chain becomes one
`print` or `read` call with all the arguments.

Main definitions:

* `unaryOpcode`, `binaryOpcode`, `streamCall?`, `isBinaryOperator` — operators in the words of the
  schema;
* `makeLiteral`, `makeMessage`, `makeBinary`, … — numbered nodes;
* `lowerExpr`, `lowerArgs` — expressions and lists of arguments.
-/

import TeachingTree.Lowering.State
import TeachingTree.Lowering.TypeName
import TeachingTree.Schema.Node
import TeachingTree.Source.Node
import TeachingTree.Text.Quoted

set_option relaxedAutoImplicit false
set_option autoImplicit false

namespace TeachingTree.Lowering

/-! ### Operators -/

/-- An operator with one operand: increments show on which side they stand, and three operators
have names. -/
def unaryOpcode (opcode : String) (isLeading : Bool) : String :=
  if opcode = "++" ∨ opcode = "--" then
    if isLeading then "_" ++ opcode else opcode ++ "_"
  else if opcode = "!" then "not"
  else if opcode = "-" then "neg"
  else if opcode = "+" then "pos"
  else opcode

/-- An operator with two operands: the two logical ones have names. -/
def binaryOpcode (opcode : String) : String :=
  if opcode = "||" then "or" else if opcode = "&&" then "and" else opcode

/-- The call that a chain of a stream operator becomes. -/
def streamCall? (operator : String) : Option String :=
  if operator = "<<" then some "print" else if operator = ">>" then some "read" else none

/-- The overloaded operators with two operands that count as built-in ones. -/
def binaryOperators : List String :=
  ["+", "-", "*", "/", "%", "^", "&", "|", "=", "+=", "-=", "*=", "/=", "%=", "^=", "&=", "|=",
    "<<=", ">>=", "==", "!=", "<", ">", "<=", ">=", "&&", "||", ","]

/-- Whether an overloaded operator with two operands counts as a built-in one. -/
def isBinaryOperator (operator : String) : Bool := binaryOperators.contains operator

/-! ### Nodes -/

/-- A literal. -/
def makeLiteral (kind : String) (value : Constant) (position : Position) : Lower Schema := do
  let id ← Lower.newId
  return .literal id position kind value

/-- The use of a name. -/
def makeIdentifier (name : String) (position : Position) : Lower Schema := do
  let id ← Lower.newId
  return .identifier id position name

/-- A message. -/
def makeMessage (kind tag description : String) (position : Position) : Lower Schema := do
  let id ← Lower.newId
  return .message id position kind tag description

/-- The kinds that a message may have. -/
def messageKinds : List String := ["error", "warning"]

/-- A message of a kind that is not known beforehand, or the text that refuses the kind. -/
def makeMessageOfKind (kind tag description : String) (position : Position) :
    Except String (Lower Schema) :=
  if messageKinds.contains kind then .ok (makeMessage kind tag description position)
  else
    .error ("message kind must be one of (" ++ ", ".intercalate (messageKinds.map Text.quoted)
      ++ "), got " ++ Text.quoted kind)

/-- An operator with two operands, which are numbered before it. -/
def makeBinary (opcode : String) (left right : Schema) (position : Position) : Lower Schema := do
  let id ← Lower.newId
  return .binary id position opcode left right

/-- A block of what a statement was lowered to. -/
def makeBlock (body : Schema) : Lower Schema := do
  let id ← Lower.newId
  return .block id body.splice

/-! ### Single constructs -/

/-- The use of a name: nothing for a stream, a line feed for the manipulator `endl`, nothing for
the other manipulators. -/
def lowerReference (name : String) (type : SourceType) (position : Position) : Lower Schema :=
  match type.kind with
  | .stream => pure .absent
  | .streamManipulator =>
    if name = "endl" then makeLiteral "string" (.ofString "\n") position else pure .absent
  | _ => makeIdentifier name position

/-- A field of a record value is looked up by its name; the numbers of the field and of its type
are used up. -/
def lowerFieldKey (key : Field) : Lower Schema := do
  let id ← Lower.newId
  let _ ← lowerType key.type
  return .literal id key.position "string" (.ofString key.name)

/-- An operator with two operands; in place of the comma operator stands a warning. -/
def lowerBinary (opcode : String) (left right : Lower Schema) (position : Position) :
    Lower Schema :=
  if opcode = "," then
    makeMessage "warning" "comma operator" "We recommend not using the comma operator!" position
  else do
    let left ← left
    let right ← right
    makeBinary (binaryOpcode opcode) left right position

/-- An element of an array. -/
def lowerSubscript (base index : Lower Schema) (position : Position) : Lower Schema := do
  let base ← base
  let index ← index
  makeBinary "[]" base index position

/-- A chain of stream operators: the arguments as a group inside another chain, and a call
elsewhere. -/
def lowerChain (callName : String) (arguments : Lower (List Schema)) (position : Position) :
    Lower Schema := do
  let isInner ← Lower.inChain
  let items ← Lower.withinChain arguments
  if isInner then return .group items
  else
    let id ← Lower.newId
    return .call id position callName items

/-- An operator that has no rule is logged, and an error stands in its place. -/
def lowerOtherOperator (operator : Option String) (operands : Nat) (position : Position) :
    Lower Schema := do
  let description := match operator with
    | none => "Operator call could not be resolved"
    | some name =>
      "Operator '" ++ name ++ "' with " ++ toString operands ++ " operand(s) is not supported"
  Lower.log (description ++ position.logSuffix ++ ".")
  makeMessage "error" "operator call" description position

/-- A call of something that could not be resolved is logged, and an error stands in its place. -/
def lowerUnresolvedCall (position : Position) : Lower Schema := do
  Lower.log ("Function call without a resolvable callee" ++ position.logSuffix ++ ".")
  makeMessage "error" "function call" "Function call could not be resolved" position

/-! ### Expressions -/

mutual

/-- Lowers an expression. -/
def lowerExpr : Node → Lower Schema
  | .absent => pure .absent
  | .integer value position => makeLiteral "int" (.integer value) position
  | .floating value position => makeLiteral "double" (.floating value) position
  | .character value position => makeLiteral "string" value position
  | .string points position => makeLiteral "string" (.text points) position
  | .bool value position => makeLiteral "bool" (.bool value) position
  | .reference name type position => lowerReference name type position
  | .unary opcode operand isLeading position => do
    let operand ← lowerExpr operand
    let id ← Lower.newId
    return .unary id position (unaryOpcode opcode isLeading) operand
  | .binary opcode lhs rhs position => lowerBinary opcode (lowerExpr lhs) (lowerExpr rhs) position
  | .member base key position => do
    let base ← lowerExpr base
    let key ← lowerFieldKey key
    makeBinary "[]" base key position
  | .subscript base index position => lowerSubscript (lowerExpr base) (lowerExpr index) position
  | .operatorCall operator args position =>
    match operator.bind streamCall? with
    | some callName =>
      match args with
      | [] => lowerChain callName (pure []) position
      | stream :: operands =>
        lowerChain callName (do
          let stream ← lowerExpr stream
          let operands ← lowerArgs operands
          return stream.groupItems ++ operands) position
    | none =>
      match operator, args with
      | some name, [lhs, rhs] =>
        if name = "[]" then lowerSubscript (lowerExpr lhs) (lowerExpr rhs) position
        else if isBinaryOperator name then
          lowerBinary name (lowerExpr lhs) (lowerExpr rhs) position
        else lowerOtherOperator (some name) 2 position
      | operator, args => lowerOtherOperator operator args.length position
  | .methodCall method receiver args position => do
    let id ← Lower.newId
    let arguments ← lowerArgs args
    let receiver ← lowerExpr receiver
    makeBinary "." receiver (.call id position method arguments) position
  | .call none _ position => lowerUnresolvedCall position
  | .call (some callee) args position => do
    let id ← Lower.newId
    let arguments ← lowerArgs args
    return .call id position callee arguments
  | .unmodeled kindName position => Lower.stop (.unsupported kindName position)
  | node => Lower.stop (.noRule node.className node.position?)

/-- Lowers expressions in order; each contributes a node, nothing, or the items of a group. -/
def lowerArgs : List Node → Lower (List Schema)
  | [] => pure []
  | arg :: args => do
    let node ← lowerExpr arg
    let nodes ← lowerArgs args
    return node.splice ++ nodes

end

end TeachingTree.Lowering

/-
**The scheme that the lowering of every site follows.**

The rules of the lowering are some forty, over four kinds of node.  All of them follow one scheme.
A site either stops at once; or it logs its lines, takes its number if that comes first, lowers its
parts in order, takes its number if that comes last, and makes its result from the number and the
results of the parts.  This module says for each site what it logs, when it takes its number and
what it makes.  That the lowering is an instance of the scheme is proved in
`TeachingTree/Proofs/Lowering/Step.lean`.

Main definitions:

* `Site.lower`, `Site.lowerAll` — the lowering of a site in its role, and of sites in order;
* `Site.notes` — the lines that a site logs;
* `Site.numbersFirst`, `Site.numbersLast` — whether a site takes its number before or after its
  parts;
* `Site.result` — what a site makes from its number and the results of its parts;
* `Site.step` — the scheme.
-/

import TeachingTree.Proofs.Lowering.Site

set_option relaxedAutoImplicit false
set_option autoImplicit false

namespace TeachingTree.Lowering

/-- The state after a number was taken, if one was. -/
def State.advance (s : State) (takes : Bool) : State :=
  if takes then { s with nextId := s.nextId + 1 } else s

namespace Site

/-! ### The lowering of a site -/

/-- The lowering of a site in its role. -/
def lower (verbose : Bool) : Site → Lower Schema
  | .expr node => lowerExpr node
  | .stmt node => lowerStmt verbose node
  | .decl node => lowerDecl verbose node
  | .unit decls => lowerUnit verbose decls
  | .var v => lowerVariable v
  | .field f => lowerField f
  | .key f => lowerFieldKey f
  | .member recordName node => do
    let nodes ← lowerMembers verbose recordName [node]
    return nodes.headD .absent
  | .type name depth => do
    let leaf ← makeType name .absent
    wrapVectors depth leaf
  | .block body => do
    let result ← lowerStmt verbose body
    makeBlock result
  | .loopInit init position => do
    let result ← lowerStmt verbose init
    lowerForInit result position
  | .conditionVariable construct v => lowerCondition construct (some v) (pure .absent)
  | .methodCall method args position => do
    let id ← Lower.newId
    let arguments ← lowerArgs args
    return .call id position method arguments

/-- Lowers sites in order. -/
def lowerAll (verbose : Bool) : List Site → Lower (List Schema)
  | [] => pure []
  | site :: sites => do
    let result ← site.lower verbose
    let results ← lowerAll verbose sites
    return result :: results

/-! ### The tables -/

/-- The line that an operator without a rule logs. -/
def operatorNote (operator : Option String) (operands : Nat) : String :=
  match operator with
  | none => "Operator call could not be resolved"
  | some name =>
    "Operator '" ++ name ++ "' with " ++ toString operands ++ " operand(s) is not supported"

/-- The lines that a site logs before its parts are lowered. -/
def notes (verbose : Bool) : Site → List String
  | .expr (.operatorCall operator args position) =>
    if operatorUse operator args.length = .other then
      [operatorNote operator args.length ++ position.logSuffix ++ "."]
    else []
  | .expr (.call none _ position) =>
    ["Function call without a resolvable callee" ++ position.logSuffix ++ "."]
  | .decl (.unsupportedDecl kindName position) =>
    if verbose then ["Skipping unsupported declaration " ++ kindName ++ position.logSuffix ++ "."]
    else []
  | .member _ (.field _) => []
  | .member recordName node =>
    if verbose then
      ["Skipping member " ++ node.memberLabel ++ " of struct '" ++ recordName ++ "'."]
    else []
  | _ => []

/-- Whether a site takes its number before its parts are lowered. -/
def numbersFirst : Site → Bool
  | .expr (.call (some _) _ _) => true
  | .stmt (.ifStmt ..) => true
  | .stmt (.whileStmt ..) => true
  | .stmt (.forStmt ..) => true
  | .stmt (.returnStmt ..) => true
  | .decl (.function ..) => true
  | .decl (.record _ _ isImplicit _) => !isImplicit
  | .unit _ => true
  | .var _ => true
  | .field _ => true
  | .key _ => true
  | .methodCall .. => true
  | _ => false

/-- Whether an expression takes its number last.  The inner operators of a chain take none. -/
def exprNumbersLast (inChain : Bool) : Node → Bool
  | .integer .. => true
  | .floating .. => true
  | .character .. => true
  | .string .. => true
  | .bool .. => true
  | .reference name declared _ =>
    match declared.kind with
    | .stream => false
    | .streamManipulator => name = "endl"
    | _ => true
  | .unary .. => true
  | .binary .. => true
  | .member .. => true
  | .subscript .. => true
  | .operatorCall operator args _ =>
    match operatorUse operator args.length with
    | .chain _ => !inChain
    | _ => true
  | .methodCall .. => true
  | .call none _ _ => true
  | _ => false

/-- Whether a site takes its number after its parts were lowered to the given results. -/
def numbersLast (inChain : Bool) (results : List Schema) : Site → Bool
  | .expr node => exprNumbersLast inChain node
  | .stmt node => (rejected? node).isSome
  | .type .. => true
  | .block _ => true
  | .loopInit .. => (results.headD .absent).isGroup
  | .conditionVariable .. => true
  | _ => false

/-- The nodes that results contribute to a list. -/
def spliceAll (results : List Schema) : List Schema := results.flatMap Schema.splice

/-- The arguments of a chain: the first result counts only if it is a group. -/
def chainItems : List Schema → List Schema
  | [] => []
  | stream :: operands => stream.groupItems ++ spliceAll operands

/-- The warning in the place of the comma operator. -/
def commaMessage (id : Int) (position : Position) : Schema :=
  .message id position "warning" "comma operator" "We recommend not using the comma operator!"

/-- What an expression makes from its number and the results of its parts. -/
def exprResult (inChain : Bool) (id : Int) (results : List Schema) : Node → Schema
  | .integer value position => .literal id position "int" (.integer value)
  | .floating value position => .literal id position "double" (.floating value)
  | .character value position => .literal id position "string" value
  | .string points position => .literal id position "string" (.text points)
  | .bool value position => .literal id position "bool" (.bool value)
  | .reference name declared position =>
    match declared.kind with
    | .stream => .absent
    | .streamManipulator =>
      if name = "endl" then .literal id position "string" (.ofString "\n") else .absent
    | _ => .identifier id position name
  | .unary opcode _ isLeading position =>
    .unary id position (unaryOpcode opcode isLeading) (results.getD 0 .absent)
  | .binary opcode _ _ position =>
    if opcode = "," then commaMessage id position
    else .binary id position (binaryOpcode opcode) (results.getD 0 .absent) (results.getD 1 .absent)
  | .member _ _ position =>
    .binary id position "[]" (results.getD 0 .absent) (results.getD 1 .absent)
  | .subscript _ _ position =>
    .binary id position "[]" (results.getD 0 .absent) (results.getD 1 .absent)
  | .operatorCall operator args position =>
    match operatorUse operator args.length with
    | .chain callName =>
      if inChain then .group (chainItems results)
      else .call id position callName (chainItems results)
    | .binary opcode =>
      .binary id position opcode (results.getD 0 .absent) (results.getD 1 .absent)
    | .comma => commaMessage id position
    | .other =>
      .message id position "error" "operator call" (operatorNote operator args.length)
  | .methodCall _ _ _ position =>
    .binary id position "." (results.getD 1 .absent) (results.getD 0 .absent)
  | .call none _ position =>
    .message id position "error" "function call" "Function call could not be resolved"
  | .call (some callee) _ position => .call id position callee (spliceAll results)
  | _ => .absent

/-- What a statement makes from its number and the results of its parts. -/
def stmtResult (id : Int) (results : List Schema) : Node → Schema
  | .absent => .absent
  | .compound _ _ => .group (spliceAll results)
  | .ifStmt _ _ _ _ position =>
    .conditional id position (results.getD 0 .absent) (results.getD 1 .absent)
      (results.getD 2 .absent)
  | .whileStmt _ _ _ position =>
    .whileLoop id position (results.getD 0 .absent) (results.getD 1 .absent)
  | .forStmt _ _ _ _ position =>
    .forLoop id position (results.getD 0 .absent) (results.getD 1 .absent)
      (results.getD 2 .absent) (results.getD 3 .absent)
  | .returnStmt _ position => .returned id position (results.getD 0 .absent)
  | .declStmt [_] _ => results.getD 0 .absent
  | .declStmt _ _ => .group (spliceAll results)
  | .nullStmt _ => .absent
  | node =>
    match rejected? node with
    | some (tag, description, position) => .message id position "error" tag description
    | none => results.getD 0 .absent

/-- What a declaration makes from its number and the results of its parts. -/
def declResult (id : Int) (results : List Schema) : Node → Schema
  | .function name _ _ _ _ position =>
    .function id position name (results.headD .absent) results.tail.dropLast
      (results.getLastD .absent)
  | .var _ => results.getD 0 .absent
  | .field _ => results.getD 0 .absent
  | .record name _ isImplicit position =>
    if isImplicit then .absent else .struct id position name (spliceAll results)
  | _ => .absent

/-- What a variable makes from its number, its type and, possibly, its initial value. -/
def varResult (id : Int) (results : List Schema) (head : VariableHead) : Schema :=
  .var id head.position head.name (results.getD 0 .absent) head.isReference
    (head.isConst || head.type.shape.isConst) (singleNode (results.getD 1 .absent))
    head.isParameter

/-- What the first clause of a loop header makes from its number and its statement. -/
def loopInitResult (id : Int) (result : Schema) (position : Position) : Schema :=
  if result.isGroup then
    .message id position "error" "compoundStmt"
      "Compound Statements are not allowed in for loop init"
  else result

/-- What a site makes from its number and the results of its parts. -/
def result (inChain : Bool) (id : Int) (results : List Schema) : Site → Schema
  | .expr node => exprResult inChain id results node
  | .stmt node => stmtResult id results node
  | .decl node => declResult id results node
  | .unit _ => .document id (spliceAll results)
  | .var v => varResult id results v.head
  | .field f => .field id f.position f.name (results.getD 0 .absent)
  | .key f => .literal id f.position "string" (.ofString f.name)
  | .member .. => results.getD 0 .absent
  | .type name 0 => .type id name .absent
  | .type _ (_ + 1) => .type id "vector" (results.getD 0 .absent)
  | .block _ => .block id (results.getD 0 .absent).splice
  | .loopInit _ position => loopInitResult id (results.getD 0 .absent) position
  | .conditionVariable construct v =>
    .message id v.position "error" "condition-variable"
      ("Variable declarations are not allowed in " ++ construct ++ " conditions")
  | .methodCall method _ position => .call id position method (spliceAll results)

/-! ### The scheme -/

/-- Whether a site is an operator of a chain. -/
def isChain : Site → Bool
  | .expr (.operatorCall operator args _) => (operatorUse operator args.length).isChain
  | _ => false

/-- The state in which the parts of a site are lowered. -/
def enter (verbose : Bool) (site : Site) (s : State) : State :=
  { s.advance site.numbersFirst with log := s.log ++ site.notes verbose }

/-- Lowers the parts of a site; those of an operator of a chain as a part of that chain. -/
def lowerParts (verbose : Bool) (site : Site) : Lower (List Schema) :=
  if site.isChain then Lower.withinChain (lowerAll verbose site.parts)
  else lowerAll verbose site.parts

/-- **The scheme of a lowering**, given what becomes of the parts. -/
def step (verbose : Bool) (site : Site) : Lower Schema := fun s =>
  match site.offence? with
  | some e => (.error e, s)
  | none =>
    match site.lowerParts verbose (site.enter verbose s) with
    | (.error e, after) => (.error e, after)
    | (.ok results, after) =>
      let id := if site.numbersFirst then s.nextId else after.nextId
      (.ok (site.result s.chainActive id results),
        after.advance (site.numbersLast s.chainActive results))

end Site

end TeachingTree.Lowering

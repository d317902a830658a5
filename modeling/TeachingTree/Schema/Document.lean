/-
The schema as JSON.

Every node is an object with its members in a fixed order: its number, its position where it has
one, its type, and then what belongs to it.

Main definitions:

* `Constant.toJson` — the JSON value of the value of a literal, with the reason in the place of what
  has none;
* `Schema.toJson` — the JSON value of a node;
* `Unserializable` — the failure that meets a value which is no part of the schema;
* `DocumentError` — why a node has no JSON text, and `DocumentError.message`;
* `Schema.documentText` — the JSON text of a node;
* `Schema.encodingError?` — why that text cannot be written to a file.
-/

import TeachingTree.Json.Encoding
import TeachingTree.Schema.Node

set_option relaxedAutoImplicit false
set_option autoImplicit false

namespace TeachingTree

/-- A value that is no part of the schema has no JSON form. -/
structure Unserializable where
  /-- The class of the value. -/
  className : String
  deriving DecidableEq, Repr

/-- The text of the failure. -/
def Unserializable.message (e : Unserializable) : String := "Cannot serialize " ++ e.className

/-- Why a node has no JSON text. -/
inductive DocumentError where
  /-- It holds a value that has no JSON form. -/
  | value (e : Unserializable)
  /-- Its JSON form has no text. -/
  | text (e : Json.TextError)
  deriving DecidableEq, Repr

/-- The text of the error. -/
def DocumentError.message : DocumentError → String
  | .value e => e.message
  | .text e => e.message

/-! ### Literals -/

namespace Constant

/-- The name of a member that stands for a key, if it can. -/
def memberName : Constant → Except Json.TextError String
  | .null => .ok "null"
  | .bool b => .ok (if b then "true" else "false")
  | .integer n =>
    if fitsDigits n then .ok (String.ofList (Json.renderInteger n)) else .error .digits
  | .floating x => .ok (NumberStyle.document.text x)
  | .text points => .ok (String.ofList (Text.CodePoint.join points))
  | key => .error (.unsupportedKey key.typeName)

/-- The member of a key and the JSON value of what it stands for. -/
def member (key : Constant) (value : Json) : String × Json :=
  match memberName key with
  | .ok name => (name, value)
  | .error reason => ("", .refused reason)

mutual

/-- The JSON value of the value of a literal: tuples are arrays too, and mappings are objects. -/
def toJson : Constant → Json
  | .null => .null
  | .bool b => .bool b
  | .integer n => .integer n
  | .floating x => .floating x
  | .text points => .ofPoints points
  | .tuple items => .array (toJsonList items)
  | .list items => .array (toJsonList items)
  | .mapping entries => .object (toJsonMembers entries)
  | value => .refused (.unsupported value.typeName)

/-- The JSON values of values in order. -/
def toJsonList : List Constant → List Json
  | [] => []
  | item :: items => toJson item :: toJsonList items

/-- The members of keys and values in order. -/
def toJsonMembers : List (Constant × Constant) → List (String × Json)
  | [] => []
  | (key, value) :: entries => member key (toJson value) :: toJsonMembers entries

end

end Constant

/-! ### Nodes -/

namespace Schema

/-- The members with which every node starts: its number, and its position. -/
def placed (id : Int) (position : Position) : List (String × Json) :=
  [("id", .integer id), ("line", .integer position.line), ("column", .integer position.column)]

/-- The members with which a node of a type starts. -/
def typed (id : Int) (position : Position) (type : String) : List (String × Json) :=
  placed id position ++ [("type", .text type)]

/-- A member that is left out when its place is empty. -/
def optionalMember (key : String) (place : Schema) (value : Json) : List (String × Json) :=
  if place.isAbsent then [] else [(key, value)]

mutual

/-- The JSON value of a node. -/
def toJson : Schema → Except Unserializable Json
  | .absent => .ok .null
  | .group items => do return .array (← toJsonList items)
  | .foreign className => .error ⟨className⟩
  | .type id name dataType => do
    let dataTypeJson ← toJson dataType
    return .object ([("id", .integer id), ("name", .text name)]
      ++ optionalMember "data-type" dataType dataTypeJson)
  | .literal id position kind value =>
    .ok (.object (typed id position kind ++ [("value", value.toJson)]))
  | .identifier id position name =>
    .ok (.object (typed id position "identifier" ++ [("value", .text name)]))
  | .message id position kind tag description =>
    .ok (.object (typed id position kind
      ++ [("value", .text tag), ("description", .text description)]))
  | .unary id position opcode expression => do
    let expression ← toJson expression
    return .object (typed id position opcode ++ [("expression", expression)])
  | .binary id position opcode left right => do
    let left ← toJson left
    let right ← toJson right
    return .object (typed id position opcode ++ [("left", left), ("right", right)])
  | .call id position name arguments => do
    let arguments ← toJsonList arguments
    return .object (typed id position "function-call"
      ++ [("name", .text name), ("arguments", .array arguments)])
  | .block id statements => do
    let statements ← toJsonList statements
    return .object [("id", .integer id), ("statements", .array statements)]
  | .conditional id position condition thenBlock elseBlock => do
    let conditionJson ← toJson condition
    let thenJson ← toJson thenBlock
    let elseJson ← toJson elseBlock
    return .object (typed id position "conditional"
      ++ [("condition", conditionJson), ("then", thenJson)]
      ++ optionalMember "else" elseBlock elseJson)
  | .whileLoop id position condition body => do
    let condition ← toJson condition
    let body ← toJson body
    return .object (typed id position "while" ++ [("condition", condition), ("block", body)])
  | .forLoop id position init condition post body => do
    let init ← toJson init
    let condition ← toJson condition
    let post ← toJson post
    let body ← toJson body
    return .object (typed id position "for"
      ++ [("init", init), ("condition", condition), ("post", post), ("block", body)])
  | .returned id position expression => do
    let expression ← toJson expression
    return .object (typed id position "return" ++ [("expression", expression)])
  | .var id position name dataType isReference isConst init isParameter => do
    let dataTypeJson ← toJson dataType
    let initJson ← toJson init
    return .object ((if isParameter then placed id position
        else typed id position "variable-declaration")
      ++ [("name", .text name), ("data-type", dataTypeJson), ("is-reference", .bool isReference),
        ("is-const", .bool isConst)]
      ++ optionalMember "init" init initJson)
  | .field id position name dataType => do
    let dataType ← toJson dataType
    return .object (placed id position ++ [("name", .text name), ("data-type", dataType)])
  | .function id position name returnType parameters body => do
    let returnType ← toJson returnType
    let parameters ← toJsonList parameters
    let body ← toJson body
    return .object (typed id position "function-declaration"
      ++ [("name", .text name), ("return-type", returnType), ("parameters", .array parameters),
        ("block", body)])
  | .struct id position name attributes => do
    let attributes ← toJsonList attributes
    return .object (typed id position "struct-declaration"
      ++ [("name", .text name), ("attributes", .array attributes)])
  | .document id statements => do
    let statements ← toJsonList statements
    return .object [("id", .integer id), ("statements", .array statements)]

/-- The JSON values of nodes in order. -/
def toJsonList : List Schema → Except Unserializable (List Json)
  | [] => .ok []
  | node :: nodes => do
    let value ← toJson node
    let values ← toJsonList nodes
    return value :: values

end

/-- The JSON text of a node with the given indentation, where memory has room for so many spaces. -/
def documentText (room : Nat) (indent : Option Int) (node : Schema) :
    Except DocumentError String := do
  let value ← node.toJson.mapError .value
  (value.write room indent).mapError .text

/-- Why the text of a node with the given indentation cannot be written to a file. -/
def encodingError? (indent : Option Int) (node : Schema) : Option EncodingError :=
  match node.toJson with
  | .ok value => value.encodingError? indent
  | .error _ => none

end Schema

end TeachingTree

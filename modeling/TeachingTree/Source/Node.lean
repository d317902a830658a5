/-
The source tree.

Every place of a source program that may hold a part of the program holds a `Node`; the empty place
is the node `absent`.  A node may stand where it does not belong, since the tree can come from
outside; what is made of it there is for its reader to decide.

Main definitions:

* `InitStyle` — the way a variable is initialised;
* `Field`, `VariableHead` — a field of a record, and a variable without its initial value;
* `Node`, `Variable` — the nodes, and variables with their initial value;
* `Node.className` — the name of the class of a node, for messages;
* `Node.position?` — the place of a node in the source file, if it has one.
-/

import TeachingTree.Constant
import TeachingTree.Position
import TeachingTree.Source.Type

set_option relaxedAutoImplicit false
set_option autoImplicit false

namespace TeachingTree

/-! ### Declared entities -/

/-- The way a variable is initialised. -/
inductive InitStyle where
  /-- After an equals sign. -/
  | assigned
  /-- In parentheses. -/
  | called
  /-- In braces. -/
  | listed
  /-- In another way, under its own name. -/
  | other (name : String)
  deriving DecidableEq, Repr, Inhabited

namespace InitStyle

/-- The name of a style. -/
def name : InitStyle → String
  | .assigned => "c"
  | .called => "call"
  | .listed => "list"
  | .other name => name

/-- The style of a name. -/
def ofName (name : String) : InitStyle :=
  ([InitStyle.assigned, .called, .listed].find? fun style => style.name == name).getD (.other name)

/-- Whether the initial value is one expression that the variable takes. -/
def isDirect : InitStyle → Bool
  | .assigned => true
  | .called => true
  | _ => false

end InitStyle

/-- A field of a record. -/
structure Field where
  /-- Its name. -/
  name : String
  /-- Its type. -/
  type : SourceType
  /-- Its place. -/
  position : Position := .unknown
  deriving DecidableEq, Repr, Inhabited

/-- A variable or parameter without its initial value. -/
structure VariableHead where
  /-- Its name. -/
  name : String
  /-- Its type. -/
  type : SourceType
  /-- Whether it is declared constant. -/
  isConst : Bool := false
  /-- Whether it is a reference. -/
  isReference : Bool := false
  /-- The way it is initialised, if it is. -/
  initStyle : Option InitStyle := none
  /-- Whether it is a parameter of a function. -/
  isParameter : Bool := false
  /-- Its place. -/
  position : Position := .unknown
  deriving DecidableEq, Repr, Inhabited

/-! ### Nodes -/

mutual

/-- A node of the source tree. -/
inductive Node where
  /-- Nothing. -/
  | absent
  /-- An integer. -/
  | integer (value : Int) (position : Position)
  /-- A floating-point number. -/
  | floating (value : Binary64) (position : Position)
  /-- A character, which may be written so that it stands for any other value. -/
  | character (value : Constant) (position : Position)
  /-- A text. -/
  | string (points : List Text.CodePoint) (position : Position)
  /-- A truth value. -/
  | bool (value : Bool) (position : Position)
  /-- The use of a declared name. -/
  | reference (name : String) (type : SourceType) (position : Position)
  /-- An operator with one operand, before or after it. -/
  | unary (opcode : String) (operand : Node) (isLeading : Bool) (position : Position)
  /-- An operator with two operands. -/
  | binary (opcode : String) (lhs rhs : Node) (position : Position)
  /-- A field of a record value. -/
  | member (base : Node) (declared : Field) (position : Position)
  /-- An element of an array. -/
  | subscript (base index : Node) (position : Position)
  /-- An overloaded operator, or one that could not be resolved. -/
  | operatorCall (operator : Option String) (args : List Node) (position : Position)
  /-- A call of a method. -/
  | methodCall (method : String) (receiver : Node) (args : List Node) (position : Position)
  /-- A call of a function, or of something that could not be resolved. -/
  | call (callee : Option String) (args : List Node) (position : Position)
  /-- An expression or statement outside the subset. -/
  | unmodeled (kindName : String) (position : Position)
  /-- Statements in braces. -/
  | compound (body : List Node) (position : Position)
  /-- A choice between two statements. -/
  | ifStmt (condition thenBranch elseBranch : Node) (declared : Option Variable)
      (position : Position)
  /-- A loop that tests first. -/
  | whileStmt (condition body : Node) (declared : Option Variable) (position : Position)
  /-- A loop with a header of three clauses. -/
  | forStmt (init condition increment body : Node) (position : Position)
  /-- A loop that tests last. -/
  | doStmt (body condition : Node) (position : Position)
  /-- The end of a function, possibly with a value. -/
  | returnStmt (value : Node) (position : Position)
  /-- The end of a loop. -/
  | breakStmt (position : Position)
  /-- The next round of a loop. -/
  | continueStmt (position : Position)
  /-- A jump. -/
  | gotoStmt (label : String) (position : Position)
  /-- The target of a jump. -/
  | labelStmt (name : String) (sub : Node) (position : Position)
  /-- The empty statement. -/
  | nullStmt (position : Position)
  /-- A statement that is known and has no place in the schema. -/
  | unsupportedStmt (label : String) (position : Position)
  /-- Declarations among statements. -/
  | declStmt (decls : List Node) (position : Position)
  /-- A variable or parameter. -/
  | var (declared : Variable)
  /-- A field. -/
  | field (declared : Field)
  /-- A function. -/
  | function (name : String) (result : SourceType) (params : List Variable) (body : Node)
      (isDefinition : Bool) (position : Position)
  /-- A record and its members. -/
  | record (name : String) (members : List Node) (isImplicit : Bool) (position : Position)
  /-- A method of a record. -/
  | method (name : String) (position : Position)
  /-- A declaration that has no place in the schema. -/
  | unsupportedDecl (kindName : String) (position : Position)
  /-- All declarations of a file. -/
  | unit (decls : List Node) (path : String)
  /-- A type in the place of a node. -/
  | type (type : SourceType)
  /-- A node of a class that is not known. -/
  | foreign

/-- A variable or parameter with its initial value. -/
inductive Variable where
  /-- The variable of a head and an initial value. -/
  | mk (head : VariableHead) (init : Node)

end

instance : Inhabited Node := ⟨.absent⟩

instance : Inhabited Variable := ⟨.mk default .absent⟩

namespace Variable

/-- The variable without its initial value. -/
def head : Variable → VariableHead
  | .mk head _ => head

/-- The initial value. -/
def init : Variable → Node
  | .mk _ init => init

/-- The place of the variable. -/
def position (v : Variable) : Position := v.head.position

/-- The name of the class of a variable. -/
def className (v : Variable) : String :=
  if v.head.isParameter then "ParmDecl" else "VarDecl"

end Variable

namespace Node

/-- Whether there is nothing. -/
def isAbsent : Node → Bool
  | .absent => true
  | _ => false

/-- The name of the class of a node. -/
def className : Node → String
  | .absent => "NoneType"
  | .integer .. => "IntegerLiteral"
  | .floating .. => "FloatingLiteral"
  | .character .. => "CharacterLiteral"
  | .string .. => "StringLiteral"
  | .bool .. => "BoolLiteral"
  | .reference .. => "DeclRef"
  | .unary .. => "UnaryOperator"
  | .binary .. => "BinaryOperator"
  | .member .. => "MemberExpr"
  | .subscript .. => "ArraySubscript"
  | .operatorCall .. => "OperatorCall"
  | .methodCall .. => "MemberCall"
  | .call .. => "Call"
  | .unmodeled .. => "Unmodeled"
  | .compound .. => "CompoundStmt"
  | .ifStmt .. => "IfStmt"
  | .whileStmt .. => "WhileStmt"
  | .forStmt .. => "ForStmt"
  | .doStmt .. => "DoStmt"
  | .returnStmt .. => "ReturnStmt"
  | .breakStmt .. => "BreakStmt"
  | .continueStmt .. => "ContinueStmt"
  | .gotoStmt .. => "GotoStmt"
  | .labelStmt .. => "LabelStmt"
  | .nullStmt .. => "NullStmt"
  | .unsupportedStmt .. => "UnsupportedStmt"
  | .declStmt .. => "DeclStmt"
  | .var v => v.className
  | .field .. => "FieldDecl"
  | .function .. => "FunctionDecl"
  | .record .. => "RecordDecl"
  | .method .. => "MethodDecl"
  | .unsupportedDecl .. => "UnsupportedDecl"
  | .unit .. => "TranslationUnit"
  | .type .. => "TypeRef"
  | .foreign => "Opaque"

/-- The place of a node in the source file, if nodes of its class have one. -/
def position? : Node → Option Position
  | .absent => none
  | .integer _ p => some p
  | .floating _ p => some p
  | .character _ p => some p
  | .string _ p => some p
  | .bool _ p => some p
  | .reference _ _ p => some p
  | .unary _ _ _ p => some p
  | .binary _ _ _ p => some p
  | .member _ _ p => some p
  | .subscript _ _ p => some p
  | .operatorCall _ _ p => some p
  | .methodCall _ _ _ p => some p
  | .call _ _ p => some p
  | .unmodeled _ p => some p
  | .compound _ p => some p
  | .ifStmt _ _ _ _ p => some p
  | .whileStmt _ _ _ p => some p
  | .forStmt _ _ _ _ p => some p
  | .doStmt _ _ p => some p
  | .returnStmt _ p => some p
  | .breakStmt p => some p
  | .continueStmt p => some p
  | .gotoStmt _ p => some p
  | .labelStmt _ _ p => some p
  | .nullStmt p => some p
  | .unsupportedStmt _ p => some p
  | .declStmt _ p => some p
  | .var v => some v.position
  | .field f => some f.position
  | .function _ _ _ _ _ p => some p
  | .record _ _ _ p => some p
  | .method _ p => some p
  | .unsupportedDecl _ p => some p
  | .unit _ _ => none
  | .type _ => none
  | .foreign => none

/-- The name by which a log line calls a node: its own name, or else the name of its kind. -/
def label? : Node → Option String
  | .reference name _ _ => some name
  | .labelStmt name _ _ => some name
  | .var v => some v.head.name
  | .field f => some f.name
  | .function name _ _ _ _ _ => some name
  | .record name _ _ _ => some name
  | .method name _ => some name
  | .unmodeled kindName _ => some kindName
  | .unsupportedDecl kindName _ => some kindName
  | _ => none

/-- A member of a record in a log line: its class, and its name unless that is empty. -/
def memberLabel (member : Node) : String :=
  match member.label? with
  | none => member.className
  | some name => if name.isEmpty then member.className else member.className ++ " '" ++ name ++ "'"

end Node

end TeachingTree

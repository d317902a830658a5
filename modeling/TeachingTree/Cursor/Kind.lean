/-
The kinds of cursors.

The parser gives each cursor a kind by name.  The kinds that the source tree has a form for have a
constructor here; any other kind keeps its name.

Main definitions:

* `CursorKind` — the kinds, `CursorKind.name` and `CursorKind.ofName`;
* `CursorKind.isRecord`, `CursorKind.isMethod`, `CursorKind.isTransparent` — the kinds that are
  treated alike.
-/

set_option relaxedAutoImplicit false
set_option autoImplicit false

namespace TeachingTree

/-- What a cursor stands for. -/
inductive CursorKind where
  /-- A macro. -/
  | macroDefinition
  /-- A function. -/
  | functionDecl
  /-- A template of functions. -/
  | functionTemplate
  /-- A variable. -/
  | varDecl
  /-- A field of a record. -/
  | fieldDecl
  /-- A structure. -/
  | structDecl
  /-- A class. -/
  | classDecl
  /-- A union. -/
  | unionDecl
  /-- A method of a record. -/
  | method
  /-- A constructor of a record. -/
  | constructor
  /-- A destructor of a record. -/
  | destructor
  /-- A conversion of a record to another type. -/
  | conversion
  /-- Statements in braces. -/
  | compoundStmt
  /-- A choice between two statements. -/
  | ifStmt
  /-- A loop that tests first. -/
  | whileStmt
  /-- A loop with a header of three clauses. -/
  | forStmt
  /-- A loop that tests last. -/
  | doStmt
  /-- The end of a function. -/
  | returnStmt
  /-- Declarations among statements. -/
  | declStmt
  /-- The end of a loop. -/
  | breakStmt
  /-- The next round of a loop. -/
  | continueStmt
  /-- The empty statement. -/
  | nullStmt
  /-- A jump. -/
  | gotoStmt
  /-- The target of a jump. -/
  | labelStmt
  /-- A choice by value. -/
  | switchStmt
  /-- A loop over a container. -/
  | rangeForStmt
  /-- Statements whose exceptions are handled. -/
  | tryStmt
  /-- An expression that the parser does not expose, such as an implicit cast. -/
  | unexposedExpr
  /-- An expression in parentheses. -/
  | parenExpr
  /-- A cast with the type in parentheses. -/
  | plainCast
  /-- A static cast. -/
  | staticCast
  /-- A cast of constness. -/
  | constCast
  /-- A cast in the form of a call. -/
  | functionalCast
  /-- An integer. -/
  | integerLiteral
  /-- A floating-point number. -/
  | floatingLiteral
  /-- A character. -/
  | characterLiteral
  /-- A text. -/
  | stringLiteral
  /-- A truth value. -/
  | boolLiteral
  /-- The name of a declared entity. -/
  | declRef
  /-- An operator with one operand. -/
  | unaryOperator
  /-- An operator with two operands. -/
  | binaryOperator
  /-- An operator that also assigns. -/
  | compoundAssignment
  /-- A member of a value. -/
  | memberRef
  /-- An element of an array. -/
  | subscript
  /-- A call. -/
  | call
  /-- Values in braces. -/
  | initList
  /-- A kind outside this list, under its own name. -/
  | other (name : String)
  deriving DecidableEq, Repr, Inhabited

namespace CursorKind

/-- The name that the parser gives to a kind. -/
def name : CursorKind → String
  | .macroDefinition => "MACRO_DEFINITION"
  | .functionDecl => "FUNCTION_DECL"
  | .functionTemplate => "FUNCTION_TEMPLATE"
  | .varDecl => "VAR_DECL"
  | .fieldDecl => "FIELD_DECL"
  | .structDecl => "STRUCT_DECL"
  | .classDecl => "CLASS_DECL"
  | .unionDecl => "UNION_DECL"
  | .method => "CXX_METHOD"
  | .constructor => "CONSTRUCTOR"
  | .destructor => "DESTRUCTOR"
  | .conversion => "CONVERSION_FUNCTION"
  | .compoundStmt => "COMPOUND_STMT"
  | .ifStmt => "IF_STMT"
  | .whileStmt => "WHILE_STMT"
  | .forStmt => "FOR_STMT"
  | .doStmt => "DO_STMT"
  | .returnStmt => "RETURN_STMT"
  | .declStmt => "DECL_STMT"
  | .breakStmt => "BREAK_STMT"
  | .continueStmt => "CONTINUE_STMT"
  | .nullStmt => "NULL_STMT"
  | .gotoStmt => "GOTO_STMT"
  | .labelStmt => "LABEL_STMT"
  | .switchStmt => "SWITCH_STMT"
  | .rangeForStmt => "CXX_FOR_RANGE_STMT"
  | .tryStmt => "CXX_TRY_STMT"
  | .unexposedExpr => "UNEXPOSED_EXPR"
  | .parenExpr => "PAREN_EXPR"
  | .plainCast => "CSTYLE_CAST_EXPR"
  | .staticCast => "CXX_STATIC_CAST_EXPR"
  | .constCast => "CXX_CONST_CAST_EXPR"
  | .functionalCast => "CXX_FUNCTIONAL_CAST_EXPR"
  | .integerLiteral => "INTEGER_LITERAL"
  | .floatingLiteral => "FLOATING_LITERAL"
  | .characterLiteral => "CHARACTER_LITERAL"
  | .stringLiteral => "STRING_LITERAL"
  | .boolLiteral => "CXX_BOOL_LITERAL_EXPR"
  | .declRef => "DECL_REF_EXPR"
  | .unaryOperator => "UNARY_OPERATOR"
  | .binaryOperator => "BINARY_OPERATOR"
  | .compoundAssignment => "COMPOUND_ASSIGNMENT_OPERATOR"
  | .memberRef => "MEMBER_REF_EXPR"
  | .subscript => "ARRAY_SUBSCRIPT_EXPR"
  | .call => "CALL_EXPR"
  | .initList => "INIT_LIST_EXPR"
  | .other name => name

/-- The kinds that have a constructor of their own. -/
def named : List CursorKind :=
  [.macroDefinition, .functionDecl, .functionTemplate, .varDecl, .fieldDecl, .structDecl,
    .classDecl, .unionDecl, .method, .constructor, .destructor, .conversion, .compoundStmt,
    .ifStmt, .whileStmt, .forStmt, .doStmt, .returnStmt, .declStmt, .breakStmt, .continueStmt,
    .nullStmt, .gotoStmt, .labelStmt, .switchStmt, .rangeForStmt, .tryStmt, .unexposedExpr,
    .parenExpr, .plainCast, .staticCast, .constCast, .functionalCast, .integerLiteral,
    .floatingLiteral, .characterLiteral, .stringLiteral, .boolLiteral, .declRef, .unaryOperator,
    .binaryOperator, .compoundAssignment, .memberRef, .subscript, .call, .initList]

/-- The kind of a name. -/
def ofName (name : String) : CursorKind :=
  (named.find? fun kind => kind.name == name).getD (.other name)

/-- Whether cursors of the kind are structures, classes or unions. -/
def isRecord : CursorKind → Bool
  | .structDecl => true
  | .classDecl => true
  | .unionDecl => true
  | _ => false

/-- Whether cursors of the kind are methods of a record, special ones included. -/
def isMethod : CursorKind → Bool
  | .method => true
  | .constructor => true
  | .destructor => true
  | .conversion => true
  | _ => false

/-- Whether cursors of the kind only wrap another expression. -/
def isTransparent : CursorKind → Bool
  | .unexposedExpr => true
  | .parenExpr => true
  | .plainCast => true
  | .staticCast => true
  | .constCast => true
  | .functionalCast => true
  | _ => false

end CursorKind

end TeachingTree

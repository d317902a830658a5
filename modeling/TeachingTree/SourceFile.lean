/-
Source files, and how their declarations are obtained.

A source file is handed to the parser with the flags of the settings and of the environment.  What
the parser complains about is logged from errors on; a fatal error ends the reading once all is
logged.  Otherwise the cursors of the parser are made into a source tree.

Main definitions:

* `Parser`, `Diagnostic`, `ParserAnswer` — the parser, its complaints, and its answer for a file;
* `SourceFile` — what is found under the name of a source file;
* `SourceError` — why it gives no declarations, and `SourceError.message`;
* `SourceFile.prepare` — what the parser runs with, if it gets to run;
* `SourceFile.read` — the declarations of a file, with all that reading it does.
-/

import TeachingTree.Building.Program
import TeachingTree.Settings.Basic

set_option relaxedAutoImplicit false
set_option autoImplicit false

namespace TeachingTree

/-! ### The parser -/

/-- Whether there is a parser, and why it does not start if it does not. -/
structure Parser where
  /-- Whether it is installed. -/
  isInstalled : Bool := true
  /-- Why it does not start. -/
  failure : Option String := none
  deriving DecidableEq, Repr

/-- A complaint of the parser.  Its line and its column are numbers of 32 bits, so that they can
always be written. -/
structure Diagnostic where
  /-- How bad it is: three for an error, four for a fatal one, less for warnings. -/
  severity : Int
  /-- The line it is about. -/
  line : Int
  /-- The column it is about. -/
  column : Int
  /-- Its text. -/
  text : String
  deriving DecidableEq, Repr

namespace Diagnostic

/-- Whether it is at least an error. -/
def isError (d : Diagnostic) : Bool := 3 ≤ d.severity

/-- Whether it is fatal. -/
def isFatal (d : Diagnostic) : Bool := 4 ≤ d.severity

/-- The message for a complaint about a file. -/
def message (name : String) (d : Diagnostic) : String :=
  name ++ ":" ++ toString d.line ++ ":" ++ toString d.column ++ ": " ++ d.text

end Diagnostic

/-- What the parser answers for a file. -/
inductive ParserAnswer where
  /-- The file cannot be parsed, for a reason. -/
  | rejected (reason : String)
  /-- The complaints about the file, and the cursors at the top of the program. -/
  | accepted (diagnostics : List Diagnostic) (cursors : List Cursor)

/-! ### Files -/

/-- What is found under the name of a source file. -/
inductive SourceFile where
  /-- No file. -/
  | missing
  /-- A file for which the parser has an answer. -/
  | parsed (answer : ParserAnswer)
  /-- Declarations that are known without the parser. -/
  | declared (decls : List Node)
  /-- A file that is known to be unreadable, with the message for it. -/
  | refused (message : String)

/-- Why a file gives no declarations. -/
inductive SourceError where
  /-- No parser is installed. -/
  | noParser
  /-- There is no file. -/
  | missing
  /-- The parser does not start, for a reason. -/
  | parserFailure (reason : String)
  /-- The flags of the environment are no words. -/
  | flagWords (e : ShellError)
  /-- The file cannot be parsed, for a reason. -/
  | unparsed (reason : String)
  /-- The parser found a fatal error. -/
  | fatal
  /-- The file is known to be unreadable. -/
  | refused (message : String)
  /-- A number in the file has no value. -/
  | literal (e : LiteralError)
  deriving DecidableEq, Repr

/-- The text of the error for a file of the given name. -/
def SourceError.message (name : String) : SourceError → String
  | .noParser => "clang.cindex is not available; install the libclang package."
  | .missing => "Input file not found: " ++ name
  | .parserFailure reason => "Failed to initialize libclang: " ++ reason
  | .flagWords e => e.message
  | .unparsed reason => "libclang could not parse '" ++ name ++ "': " ++ reason
  | .fatal => "libclang reported a fatal error while parsing '" ++ name ++ "'."
  | .refused message => message
  | .literal e => e.message

/-- All that reading a source file does. -/
structure SourceReading where
  /-- The declarations of the file, or why there are none. -/
  outcome : Except SourceError (List Node)
  /-- The flags with which the parser ran, if it ran. -/
  parserFlags : Option (List String) := none
  /-- The messages logged on the way. -/
  log : List String := []
  /-- Whether the warning about missing template arguments was given, now or before. -/
  warned : Bool

namespace SourceFile

/-- The flags for the parser and its answer, or why it does not get to run. -/
def prepare (parser : Parser) (settings : Settings) (environment : Option String)
    (file : Option ParserAnswer) : Except SourceError (List String × ParserAnswer) :=
  if !parser.isInstalled then .error .noParser
  else match file with
    | none => .error .missing
    | some answer => match parser.failure with
      | some reason => .error (.parserFailure reason)
      | none => match settings.parserFlags environment with
        | .ok flags => .ok (flags, answer)
        | .error e => .error (.flagWords e)

/-- The declarations of a parsed file; `warned` says whether the warning about missing template
arguments was given before. -/
def readAnswer (names : Text.CharacterNames) (settings : Settings) (warned : Bool) (name : String)
    (flags : List String) : ParserAnswer → SourceReading
  | .rejected reason =>
    { outcome := .error (.unparsed reason), parserFlags := some flags, warned }
  | .accepted diagnostics cursors =>
    let complaints := (diagnostics.filter Diagnostic.isError).map (Diagnostic.message name)
    if diagnostics.any Diagnostic.isFatal then
      { outcome := .error .fatal, parserFlags := some flags, log := complaints, warned }
    else
      let (outcome, state) :=
        Building.buildUnit names name settings.mainFileOnly cursors ⟨warned, complaints⟩
      { outcome := outcome.mapError .literal
        parserFlags := some flags
        log := state.log
        warned := state.warned }

/-- The declarations of a file; `warned` says whether the warning about missing template arguments
was given before. -/
def read (names : Text.CharacterNames) (parser : Parser) (settings : Settings)
    (environment : Option String) (warned : Bool) (name : String) (file : SourceFile) :
    SourceReading :=
  let parse (answer : Option ParserAnswer) : SourceReading :=
    match prepare parser settings environment answer with
    | .error e => { outcome := .error e, warned }
    | .ok (flags, answer) => readAnswer names settings warned name flags answer
  match file with
  | .missing => parse none
  | .parsed answer => parse (some answer)
  | .declared decls => { outcome := .ok decls, warned }
  | .refused message => { outcome := .error (.refused message), warned }

end SourceFile

end TeachingTree

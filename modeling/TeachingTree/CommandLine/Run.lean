/-
A run of the program.

A run reads its arguments, its settings and its source files in turn, and stops at the first that it
cannot use.  If all source files can be lowered, it writes one text: the document of the only file,
or the list of the documents of all files.

Main definitions:

* `Failure` — why a source file has no document;
* `Progress`, `Run` — what has happened so far, and actions that add to it;
* `lowerFiles` — the documents of source files;
* `Ending`, `Report` — how a run ends, and all that it does;
* `Report.created?` — the file that a run adds to its working directory;
* `lower`, `run` — the command, and the program.
-/

import TeachingTree.CommandLine.Arguments
import TeachingTree.CommandLine.Workspace
import TeachingTree.Lowering.Program
import TeachingTree.Schema.Document

set_option relaxedAutoImplicit false
set_option autoImplicit false

namespace TeachingTree.CommandLine

/-! ### Source files -/

/-- Why a source file has no document. -/
inductive Failure where
  /-- It has no declarations. -/
  | source (name : String) (e : SourceError)
  /-- Its declarations cannot be lowered. -/
  | lowering (name : String) (e : LoweringError)
  deriving DecidableEq, Repr

/-- What has happened so far. -/
structure Progress where
  /-- Whether the warning about missing template arguments was given. -/
  warned : Bool := false
  /-- The messages logged. -/
  log : List String := []
  /-- The flags of all runs of the parser. -/
  parserRuns : List (List String) := []
  deriving DecidableEq, Repr

/-- Actions that lower source files. -/
abbrev Run := ExceptT Failure (StateM Progress)

/-- The document of a source file. -/
def lowerFile (workspace : Workspace) (settings : Settings) (verbose : Bool) (name : String) :
    Run Schema := fun progress =>
  let reading := (workspace.sourceFile name).read workspace.names workspace.parser settings
    workspace.environment progress.warned name
  let progress : Progress := {
    warned := reading.warned
    log := progress.log ++ reading.log
    parserRuns := progress.parserRuns ++ reading.parserFlags.toList }
  match reading.outcome with
  | .error e => (.error (.source name e), progress)
  | .ok decls =>
    let (outcome, log) := Lowering.lowerProgram verbose decls
    (outcome.mapError (.lowering name), { progress with log := progress.log ++ log })

/-- The documents of source files in order, up to the first that has none. -/
def lowerFiles (workspace : Workspace) (settings : Settings) (verbose : Bool) :
    List String → Run (List Schema)
  | [] => return []
  | name :: names => do
    let document ← lowerFile workspace settings verbose name
    let documents ← lowerFiles workspace settings verbose names
    return document :: documents

/-! ### Reports -/

/-- How a run ends. -/
inductive Ending where
  /-- With a status. -/
  | finished (status : Nat)
  /-- After it has shown how the program is used. -/
  | help
  /-- With arguments that mean nothing. -/
  | usage (e : UsageError)
  /-- With flags that are no words. -/
  | words (e : ShellError)
  /-- With a number that has no value. -/
  | literal (e : LiteralError)
  /-- With a document that has no text. -/
  | document (e : DocumentError)
  /-- With an indentation that is no number. -/
  | noIndent
  /-- With a file that cannot be opened. -/
  | file (fault : FileFault)
  /-- With a text that cannot be written to its file. -/
  | encoding (e : EncodingError)
  /-- With a settings file at which its reader fails. -/
  | reader (failure : ReaderFailure)
  /-- With a key in a settings file that cannot be shown. -/
  | keyDigits
  deriving DecidableEq, Repr

/-- The text of the error that an indentation is no number. -/
def noIndentMessage : String := "can't multiply sequence by non-int of type 'list'"

/-- A file that is written. -/
structure Written where
  /-- The name under which it is written. -/
  name : String
  /-- The place to which the name leads. -/
  place : Path
  /-- Its text. -/
  text : String
  deriving DecidableEq, Repr

/-- All that a run does. -/
structure Report where
  /-- How it ends. -/
  ending : Ending
  /-- The messages that it logs. -/
  log : List String := []
  /-- The text that it writes to its output. -/
  output : String := ""
  /-- The file that it writes. -/
  written : Option Written := none
  /-- The flags with which it runs the parser, once for each time. -/
  parserRuns : List (List String) := []
  deriving DecidableEq, Repr

namespace Failure

/-- How a run ends at a failure, and the message that it logs. -/
def ending : Failure → Ending × Option String
  | .source _ (.flagWords e) => (.words e, none)
  | .source _ (.literal e) => (.literal e, none)
  | .source name e => (.finished 1, some (e.message name))
  | .lowering name e => (.finished 2, some ("Cannot lower '" ++ name ++ "': " ++ e.message))

end Failure

/-- How a run ends that finds no settings, and the message that it logs. -/
def endingWithoutSettings (name : String) : SettingsError → Ending × Option String
  | .flagWords e => (.words e, none)
  | .unreadable .nullByte => (.file .nullByte, none)
  | .reader failure => (.reader failure, none)
  | .keyDigits => (.keyDigits, none)
  | e => (.finished 1, some (e.message name))

/-- What a run writes for the documents of its files: the only document, or the list of them. -/
def payload : List Schema → Schema
  | [document] => document
  | documents => .group documents

/-- The indentation that the arguments or else the settings ask for; none if it is no number. -/
def indentOf? (arguments : LowerArguments) (settings : Settings) : Option Int :=
  match arguments.indent with
  | some .dashes => none
  | some (.spaces count) => some count
  | none => some settings.indent

/-- The text of a document with an indentation. -/
def textOf (workspace : Workspace) (indent : Option Int) (document : Schema) :
    Except Ending String :=
  match indent with
  | some count => (document.documentText workspace.room (some count)).mapError .document
  | none => match document.toJson with
    | .ok _ => .error .noIndent
    | .error e => .error (.document (.value e))

/-- The report of a run that writes a text, to the given file if one is given.  A file stays empty
if the text cannot be written to it. -/
def emit (workspace : Workspace) (progress : Progress) (out : Option String) (text : String)
    (encodingError : Unit → Option EncodingError) : Report :=
  let report : Report :=
    { ending := .finished 0, log := progress.log, parserRuns := progress.parserRuns }
  match out with
  | none => { report with output := text }
  | some name => match workspace.tree.writePlace name with
    | .error fault => { report with ending := .file fault }
    | .ok place => match encodingError () with
      | some e => { report with ending := .encoding e, written := some ⟨name, place, ""⟩ }
      | none => { report with written := some ⟨name, place, text⟩ }

/-- The name and the text of the file that a run adds to its working directory.  A file that was
there before or is in another directory does not count. -/
def Report.created? (workspace : Workspace) (report : Report) : Option (String × String) :=
  match report.written with
  | some ⟨_, place, text⟩ =>
    if place.isLocal && !workspace.tree.isFile place then some (place.name, text) else none
  | none => none

/-! ### The command and the program -/

/-- An argument that is not empty. -/
def given (argument : Option String) : Option String := argument.filter fun text => !text.isEmpty

/-- The settings of a run, and the messages logged on the way. -/
def settingsOf (workspace : Workspace) (arguments : LowerArguments) :
    Except (Ending × Option String) Settings × List String :=
  match given arguments.config with
  | none => (.ok {}, [])
  | some name =>
    let (outcome, log) := loadSettings workspace.readsSettings name (workspace.settingsFile name)
    (outcome.mapError (endingWithoutSettings name), log)

/-- The command: lowers source files and writes their documents. -/
def lower (workspace : Workspace) (arguments : LowerArguments) : Report :=
  match settingsOf workspace arguments with
  | (.error (ending, message), log) => { ending, log := log ++ message.toList }
  | (.ok settings, log) =>
    match lowerFiles workspace settings arguments.verbose arguments.files { log } with
    | (.error failure, progress) =>
      let (ending, message) := failure.ending
      { ending, log := progress.log ++ message.toList, parserRuns := progress.parserRuns }
    | (.ok documents, progress) =>
      let document := payload documents
      let indent := indentOf? arguments settings
      match textOf workspace indent document with
      | .ok text => emit workspace progress (given arguments.out) (text ++ "\n")
          fun _ => document.encodingError? indent
      | .error ending => { ending, log := progress.log, parserRuns := progress.parserRuns }

/-- The program. -/
def run (workspace : Workspace) (arguments : List String) : Report :=
  match readArguments arguments with
  | .ok arguments => lower workspace arguments
  | .error .help => { ending := .help }
  | .error (.usage e) => { ending := .usage e }

end TeachingTree.CommandLine

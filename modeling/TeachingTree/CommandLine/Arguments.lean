/-
The arguments of the program.

The program has one command, `lower`, which takes options and the names of source files.  A long
option may be shortened as long as it stays unique, and its value may follow an equals sign.  After
two dashes alone all arguments are names.  Names that do not stand next to each other are only taken
up to the first option between them.

Main definitions:

* `Flag` — the options, and `Flag.spellings`;
* `Argument`, `classify` — what an argument is on its own;
* `UsageError` — what is wrong with arguments, and `UsageError.message`;
* `LowerArguments` — the arguments of the command;
* `scan` — the arguments of the command, read from left to right;
* `readArguments` — the arguments of the program.
-/

import TeachingTree.Number.Reading
import TeachingTree.Text.Digit
import TeachingTree.Text.Quoted

set_option relaxedAutoImplicit false
set_option autoImplicit false

namespace TeachingTree.CommandLine

open Text

/-! ### Options -/

/-- The options. -/
inductive Flag where
  /-- Shows how the program is used. -/
  | help
  /-- The settings file. -/
  | config
  /-- The file for the document. -/
  | out
  /-- The indentation of the document. -/
  | indent
  /-- Whether all that is left out is logged. -/
  | verbose
  deriving DecidableEq, Repr

namespace Flag

/-- The long spelling of an option. -/
def long : Flag → String
  | .help => "--help"
  | .config => "--config"
  | .out => "--out"
  | .indent => "--indent"
  | .verbose => "--verbose"

/-- How messages name an option. -/
def shown : Flag → String
  | .help => "-h/--help"
  | flag => flag.long

/-- The options of the program itself. -/
def ofProgram : List Flag := [.help]

/-- The options of the command. -/
def ofLower : List Flag := [.help, .config, .out, .indent, .verbose]

end Flag

/-! ### Errors -/

/-- What is wrong with arguments. -/
inductive UsageError where
  /-- A shortened option may be one of several. -/
  | ambiguous (argument : String) (candidates : List Flag)
  /-- An option has a value and takes none. -/
  | superfluousValue (inCommand : Bool) (flag : Flag) (value : String)
  /-- An option has no value and takes one. -/
  | missingValue (flag : Flag)
  /-- The indentation is no integer. -/
  | indent (value : String)
  /-- There is no command. -/
  | missingCommand
  /-- There is no command of this name. -/
  | unknownCommand (name : String)
  /-- There are no names of files. -/
  | missingFiles
  /-- There are arguments that mean nothing. -/
  | unrecognized (arguments : List String)
  deriving DecidableEq, Repr

namespace UsageError

/-- The name of the program. -/
def program : String := "superast"

/-- The name of the program and its command. -/
def command : String := program ++ " lower"

/-- How the program is used. -/
def usage : String :=
  "usage: " ++ command ++
    " [--config CONFIG_YAML] [--out OUT_JSON] [--indent N] [--verbose] files..."

/-- The text of an error in an option. -/
def ofFlag (speaker : String) (flag : Flag) (text : String) : String :=
  speaker ++ ": error: argument " ++ flag.shown ++ ": " ++ text

/-- The text of an error. -/
def message : UsageError → String
  | .ambiguous argument candidates =>
    command ++ ": error: ambiguous option: " ++ argument ++ " could match " ++
      ", ".intercalate (candidates.map Flag.long)
  | .superfluousValue inCommand flag value =>
    ofFlag (if inCommand then command else program) flag
      ("ignored explicit argument " ++ quoted value)
  | .missingValue flag => ofFlag command flag "expected one argument"
  | .indent value => ofFlag command .indent ("invalid int value: " ++ quoted value)
  | .missingCommand => program ++ ": error: the following arguments are required: command"
  | .unknownCommand name =>
    program ++ ": error: argument command: invalid choice: " ++ quoted name ++
      " (choose from 'lower')"
  | .missingFiles => command ++ ": error: the following arguments are required: files"
  | .unrecognized arguments =>
    program ++ ": error: unrecognized arguments: " ++ " ".intercalate arguments

end UsageError

/-- Why there is nothing to lower. -/
inductive Stop where
  /-- The use of the program was asked for. -/
  | help
  /-- Something is wrong with the arguments. -/
  | usage (e : UsageError)
  deriving DecidableEq, Repr

/-! ### Single arguments -/

/-- What an argument is on its own. -/
inductive Argument where
  /-- A name or a value. -/
  | plain
  /-- An option, possibly with a value. -/
  | option (flag : Flag) (value : Option String)
  /-- The short spelling of the help option with other characters after it. -/
  | shortHelp (rest : List Char)
  /-- A shortened option that may be one of several. -/
  | ambiguous (candidates : List Flag)
  /-- An option that does not exist. -/
  | unknown
  deriving DecidableEq, Repr

/-- Whether a text is digits of any script, which may end with a line feed. -/
def isDigits : List Char → Bool
  | [] => false
  | c :: rest => (decimalDigit? c).isSome && (rest == [] || rest == ['\n'] || isDigits rest)

/-- Whether a text is a minus sign and a number, with or without a point. -/
def isNegativeNumber : List Char → Bool
  | '-' :: rest =>
    isDigits rest ||
      match rest.dropWhile fun c => (decimalDigit? c).isSome with
      | '.' :: fraction => isDigits fraction
      | _ => false
  | _ => false

/-- What an argument that starts with a dash is, if it names no option: negative numbers and texts
with spaces are plain. -/
def classifyOther (cs : List Char) : Argument :=
  if isNegativeNumber cs || cs.contains ' ' then .plain else .unknown

/-- A text up to its first equals sign, and what follows the sign if there is one. -/
def splitValue (cs : List Char) : List Char × Option String :=
  let name := cs.takeWhile (· != '=')
  match cs.drop name.length with
  | [] => (name, none)
  | _ :: value => (name, some (String.ofList value))

/-- What an argument that starts with two dashes is. -/
def classifyLong (flags : List Flag) (cs : List Char) : Argument :=
  let (name, value) := splitValue cs
  match flags.filter fun flag => name.isPrefixOf flag.long.toList with
  | [] => classifyOther cs
  | [flag] => .option flag value
  | candidates => .ambiguous candidates

/-- What an argument is on its own, where the given options exist. -/
def classify (flags : List Flag) (argument : String) : Argument :=
  match argument.toList with
  | '-' :: '-' :: rest => classifyLong flags ('-' :: '-' :: rest)
  | ['-', 'h'] => .option .help none
  | ['-', 'h', '='] => .option .help (some "")
  | '-' :: 'h' :: '=' :: rest => .shortHelp rest
  | '-' :: 'h' :: rest => .shortHelp rest
  | ['-'] => .plain
  | '-' :: rest => classifyOther ('-' :: rest)
  | _ => .plain

/-- How the short spelling of the help option with other characters after it ends: the option may be
repeated, and what follows it then is refused as a value. -/
def stopOfShortHelp (inCommand : Bool) : List Char → Stop
  | [] => .help
  | 'h' :: rest => stopOfShortHelp inCommand rest
  | value => .usage (.superfluousValue inCommand .help (String.ofList value))

/-- How the help option with or without a value ends. -/
def stopOfHelp (inCommand : Bool) : Option String → Stop
  | none => .help
  | some value => .usage (.superfluousValue inCommand .help value)

/-! ### The command -/

/-- The indentation that the arguments ask for. -/
inductive IndentArgument where
  /-- So many spaces, where a negative number counts as none. -/
  | spaces (count : Int)
  /-- The two dashes that stand for no value. -/
  | dashes
  deriving DecidableEq, Repr

/-- The arguments of the command. -/
structure LowerArguments where
  /-- The name of the settings file. -/
  config : Option String := none
  /-- The name of the file for the document. -/
  out : Option String := none
  /-- The indentation of the document. -/
  indent : Option IndentArgument := none
  /-- Whether all that is left out is logged. -/
  verbose : Bool := false
  /-- The names of the source files. -/
  files : List String := []
  deriving DecidableEq, Repr

/-- Where the names of files stand. -/
inductive NamesState where
  /-- None has come yet. -/
  | unseen
  /-- The last argument was one. -/
  | open
  /-- Other arguments have come after them. -/
  | closed
  deriving DecidableEq, Repr

/-- The arguments that have been read. -/
structure Scan where
  /-- What they mean. -/
  arguments : LowerArguments := {}
  /-- Where the names of files stand. -/
  names : NamesState := .unseen
  /-- The arguments that mean nothing. -/
  extras : List String := []
  deriving DecidableEq, Repr

namespace Scan

/-- Takes a name of a file, or leaves it over if it comes too late. -/
def addName (scan : Scan) (name : String) : Scan :=
  match scan.names with
  | .closed => { scan with extras := scan.extras ++ [name] }
  | _ =>
    let files := scan.arguments.files ++ [name]
    { scan with arguments := { scan.arguments with files }, names := .open }

/-- Ends the names of files, if there were any. -/
def interrupt (scan : Scan) : Scan :=
  { scan with names := if scan.names = .unseen then .unseen else .closed }

/-- Leaves an option over that does not exist. -/
def addUnknown (scan : Scan) (argument : String) : Scan :=
  { scan.interrupt with extras := scan.extras ++ [argument] }

/-- Takes the arguments from two dashes on: the names after the dashes, unless they come too late or
there are none. -/
def addRest (scan : Scan) (rest : List String) : Scan :=
  if scan.names = .closed ∨ scan.names = .unseen ∧ rest = [] then
    { scan with extras := scan.extras ++ "--" :: rest }
  else
    let files := scan.arguments.files ++ rest
    { scan with arguments := { scan.arguments with files }, names := .closed }

/-- The value that an option is given.  Two dashes stand for none. -/
def valueOf (value : String) : Option String := if value = "--" then none else some value

/-- The indentation that a value of its option asks for. -/
def indentOf (value : String) : Except Stop IndentArgument :=
  match valueOf value with
  | none => .ok .dashes
  | some text => match readInteger 10 text.toList with
    | .ok count => .ok (.spaces count)
    | .error _ => .error (.usage (.indent text))

/-- Takes the value of an option. -/
def setValue (scan : Scan) (value : String) : Flag → Except Stop Scan
  | .config =>
    .ok { scan.interrupt with arguments := { scan.arguments with config := valueOf value } }
  | .out => .ok { scan.interrupt with arguments := { scan.arguments with out := valueOf value } }
  | .indent => do
    let indent ← indentOf value
    return { scan.interrupt with arguments := { scan.arguments with indent := some indent } }
  | flag => .error (.usage (.superfluousValue true flag value))

/-- Takes an option without a value. -/
def setVerbose (scan : Scan) : Scan :=
  { scan.interrupt with arguments := { scan.arguments with verbose := true } }

end Scan

/-- Whether an argument can be the value of the option before it. -/
def isValue (argument : String) : Bool :=
  argument != "--" && classify Flag.ofLower argument = .plain

/-- Reads the arguments of the command from left to right. -/
def scan (state : Scan) : List String → Except Stop Scan
  | [] => .ok state
  | argument :: rest =>
    if argument = "--" then .ok (state.addRest rest)
    else match classify Flag.ofLower argument with
      | .plain => scan (state.addName argument) rest
      | .unknown => scan (state.addUnknown argument) rest
      | .ambiguous candidates => .error (.usage (.ambiguous argument candidates))
      | .shortHelp rest => .error (stopOfShortHelp true rest)
      | .option .help value => .error (stopOfHelp true value)
      | .option .verbose none => scan state.setVerbose rest
      | .option flag (some value) => do scan (← state.setValue value flag) rest
      | .option flag none =>
        match rest with
        | value :: rest =>
          if isValue value then do scan (← state.setValue value flag) rest
          else .error (.usage (.missingValue flag))
        | [] => .error (.usage (.missingValue flag))

/-- The error for the first shortened option that may be one of several. -/
def firstAmbiguous? : List String → Option UsageError
  | [] => none
  | argument :: rest =>
    if argument = "--" then none
    else match classify Flag.ofLower argument with
      | .ambiguous candidates => some (.ambiguous argument candidates)
      | _ => firstAmbiguous? rest

/-- The arguments of the command, where `extras` were left over before it.  Shortened options are
checked first, and arguments that are left over are refused last. -/
def readLower (extras arguments : List String) : Except Stop LowerArguments :=
  match firstAmbiguous? arguments with
  | some e => .error (.usage e)
  | none => do
    let state ← scan {} arguments
    let extras := extras ++ state.extras
    if state.arguments.files = [] then .error (.usage .missingFiles)
    else if extras = [] then .ok state.arguments
    else .error (.usage (.unrecognized extras))

/-! ### The program -/

/-- The arguments of the program, where `extras` were left over so far. -/
def readProgram (extras : List String) : List String → Except Stop LowerArguments
  | [] => .error (.usage .missingCommand)
  | argument :: rest =>
    if argument = "--" then
      if rest = [] then .error (.usage .missingCommand)
      else .error (.usage (.unknownCommand argument))
    else match classify Flag.ofProgram argument with
      | .plain =>
        if argument = "lower" then readLower extras rest
        else .error (.usage (.unknownCommand argument))
      | .shortHelp rest => .error (stopOfShortHelp false rest)
      | .option _ value => .error (stopOfHelp false value)
      | _ => readProgram (extras ++ [argument]) rest

/-- The arguments of the program. -/
def readArguments (arguments : List String) : Except Stop LowerArguments :=
  readProgram [] arguments

end TeachingTree.CommandLine

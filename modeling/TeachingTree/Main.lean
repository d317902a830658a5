/-
The program.

It runs without a parser and without a reader for settings files, so that every source file is
refused and every settings file ignored with a message.

Main definitions:

* `CommandLine.surroundings` — what the program finds around it;
* `CommandLine.Ending.deliver` — the last message of a run, and its status;
* `main` — the program.
-/

import TeachingTree.CommandLine.Run
import TeachingTree.Log

set_option relaxedAutoImplicit false
set_option autoImplicit false

namespace TeachingTree.CommandLine

/-- What the program finds around it. -/
def surroundings : IO Workspace := do
  return {
    parser := { isInstalled := false }
    room := Nat.pow 2 36
    readsSettings := false
    environment := ← IO.getEnv "SUPERAST_CLANG_ARGS" }

/-- Shows the last message of a run, if there is one, and returns its status. -/
def Ending.deliver : Ending → IO UInt32
  | .finished status => return status.toUInt32
  | .help => do IO.println UsageError.usage; return 0
  | .usage e => do IO.eprintln e.message; return 2
  | .words e => do IO.eprintln e.message; return 1
  | .literal e => do IO.eprintln e.message; return 1
  | .document e => do IO.eprintln e.message; return 1
  | .noIndent => do IO.eprintln noIndentMessage; return 1
  | .file fault => do IO.eprintln fault.message; return 1
  | .encoding e => do IO.eprintln e.message; return 1
  | .reader failure => do IO.eprintln failure.message; return 1
  | .keyDigits => do IO.eprintln digitsMessage; return 1

end TeachingTree.CommandLine

open TeachingTree in
/-- Runs the program and ends with its status. -/
def main (arguments : List String) : IO UInt32 := do
  let report := CommandLine.run (← CommandLine.surroundings) arguments
  for line in logLines report.log do
    IO.eprintln line
  IO.print report.output
  if let some file := report.written then
    IO.FS.writeFile file.name file.text
  report.ending.deliver

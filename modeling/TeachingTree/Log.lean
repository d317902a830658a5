/-
The lines of the log.

A message is logged under the name of the program.  A message of several lines takes as many lines
of the log.

Main definitions:

* `logText` — a message as it is logged;
* `logLines` — the lines of a list of messages.
-/

import TeachingTree.Text.Lines

set_option relaxedAutoImplicit false
set_option autoImplicit false

namespace TeachingTree

/-- A message as it is logged. -/
def logText (message : String) : String := "[superast] " ++ message ++ "\n"

/-- The lines that the messages take in the log, in order. -/
def logLines (messages : List String) : List String :=
  messages.flatMap fun message => Text.lines (logText message)

@[simp] theorem logLines_nil : logLines [] = [] := rfl

@[simp] theorem logLines_append (ms ns : List String) :
    logLines (ms ++ ns) = logLines ms ++ logLines ns := by simp [logLines]

end TeachingTree

/-
Words in the notation of a shell.

White space separates words.  Single quotes keep all characters between them, double quotes keep
all but a backslash before a backslash or a double quote, and elsewhere a backslash keeps the
character after it.  A pair of quotes makes a word even if nothing stands between them.

Main definitions:

* `ShellWords.Pending` — what the characters read so far have left open;
* `ShellWords.Pending.step` — what one more character does;
* `shellWords` — the words of a text, or what it leaves open at its end.
-/

set_option relaxedAutoImplicit false
set_option autoImplicit false

namespace TeachingTree

/-- Why a text has no words. -/
inductive ShellError where
  /-- A quote is not closed. -/
  | openQuote
  /-- A backslash has no character after it. -/
  | openEscape
  deriving DecidableEq, Repr

/-- The text of the error. -/
def ShellError.message : ShellError → String
  | .openQuote => "No closing quotation"
  | .openEscape => "No escaped character"

namespace ShellWords

/-- The white space between words. -/
def isSeparator (c : Char) : Bool := c == ' ' || c == '\t' || c == '\r' || c == '\n'

/-- The two kinds of quotes. -/
inductive Quote where
  /-- All characters stand for themselves. -/
  | single
  /-- A backslash may escape itself and the quote. -/
  | double
  deriving DecidableEq, Repr

/-- The character of a quote. -/
def Quote.char : Quote → Char
  | .single => '\''
  | .double => '"'

/-- What the characters read so far have left open.  A word is held in reverse. -/
inductive Pending where
  /-- Nothing. -/
  | nothing
  /-- A word that has begun. -/
  | word (read : List Char)
  /-- A quote inside a word. -/
  | quote (quote : Quote) (read : List Char)
  /-- A backslash inside a word. -/
  | escape (read : List Char)
  /-- A backslash inside double quotes. -/
  | quotedEscape (read : List Char)
  deriving DecidableEq, Repr

namespace Pending

/-- What a character that does not separate words does to a word. -/
def extend (read : List Char) (c : Char) : Pending :=
  if c == '\'' then .quote .single read
  else if c == '"' then .quote .double read
  else if c == '\\' then .escape read
  else .word (c :: read)

/-- What one more character does: the word that it ends, if any, and what is open after it. -/
def step (c : Char) : Pending → Option (List Char) × Pending
  | .nothing => if isSeparator c then (none, .nothing) else (none, extend [] c)
  | .word read => if isSeparator c then (some read.reverse, .nothing) else (none, extend read c)
  | .quote q read =>
    if c == q.char then (none, .word read)
    else if q = .double ∧ c = '\\' then (none, .quotedEscape read)
    else (none, .quote q (c :: read))
  | .escape read => (none, .word (c :: read))
  | .quotedEscape read =>
    if c == '\\' || c == '"' then (none, .quote .double (c :: read))
    else (none, .quote .double (c :: '\\' :: read))

/-- The words that the end of the text completes. -/
def finish : Pending → Except ShellError (List (List Char))
  | .nothing => .ok []
  | .word read => .ok [read.reverse]
  | .quote .. => .error .openQuote
  | .escape _ => .error .openEscape
  | .quotedEscape _ => .error .openEscape

end Pending

/-- The words of the characters that follow. -/
def wordsFrom (pending : Pending) : List Char → Except ShellError (List (List Char))
  | [] => pending.finish
  | c :: rest =>
    match pending.step c with
    | (none, next) => wordsFrom next rest
    | (some word, next) => (wordsFrom next rest).map (word :: ·)

@[simp] theorem wordsFrom_nil (pending : Pending) : wordsFrom pending [] = pending.finish := rfl

end ShellWords

/-- The words of a text. -/
def shellWords (text : String) : Except ShellError (List String) :=
  (ShellWords.wordsFrom .nothing text.toList).map fun words => words.map String.ofList

end TeachingTree

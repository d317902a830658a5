/-
**All or nothing.**

A run of the program lowers its source files one after the other and writes one text at the end, if
all of them could be lowered.  The only thing that one file leaves behind for the next is whether a
warning was given; so a file has the same document in every run, and a run depends on each of its
files as on the only one.

A failure that the program reports ends the run with a status, and then nothing is written.  The
remaining failures are not reported: flags that are no words, literals that have no value, and of a
settings file a name that is no name, contents at which the reader fails, and a key that cannot be
shown.

Main definitions:

* `alone` — what becomes of a source file when it is the only one;
* `parserRunsOf` — the runs of the parser for a source file;
* `Failure.isReported`, `Failure.status`, `SettingsError.isReported` — the failures that end a run
  with a status;
* `Silent`, `Emits` — runs that write nothing, and runs that write one text.

Main results:

* `lowerFile_outcome` — the document of a source file does not depend on the files before it;
* `lowerFiles_of_all`, `lowerFiles_of_failure` — the documents of all files, or the first failure;
* `run_of_readArguments` — **a run writes the documents of all its files, or nothing**.
-/

import Mathlib.Data.List.TakeWhile
import TeachingTree.CommandLine.Run
import TeachingTree.Proofs.Building.Steady

set_option relaxedAutoImplicit false
set_option autoImplicit false

namespace TeachingTree

/-! ### Reading a source file -/

namespace SourceFile

/-- Whether the warning was given before decides about the log only. -/
theorem readAnswer_outcome (names : Text.CharacterNames) (settings : Settings)
    (warned before : Bool) (name : String) (flags : List String) (answer : ParserAnswer) :
    (readAnswer names settings warned name flags answer).outcome =
        (readAnswer names settings before name flags answer).outcome ∧
      (readAnswer names settings warned name flags answer).parserFlags =
        (readAnswer names settings before name flags answer).parserFlags := by
  cases answer with
  | rejected reason => exact ⟨rfl, rfl⟩
  | accepted diagnostics cursors =>
      simp only [readAnswer]
      split
      · exact ⟨rfl, rfl⟩
      · have hsteady := Building.steady_buildUnit names name settings.mainFileOnly cursors
          ⟨warned, (diagnostics.filter Diagnostic.isError).map (Diagnostic.message name)⟩
          ⟨before, (diagnostics.filter Diagnostic.isError).map (Diagnostic.message name)⟩
        exact ⟨congrArg (Except.mapError SourceError.literal) hsteady, rfl⟩

theorem read_outcome (names : Text.CharacterNames) (parser : Parser) (settings : Settings)
    (environment : Option String) (warned before : Bool) (name : String) (file : SourceFile) :
    (file.read names parser settings environment warned name).outcome =
        (file.read names parser settings environment before name).outcome ∧
      (file.read names parser settings environment warned name).parserFlags =
        (file.read names parser settings environment before name).parserFlags := by
  cases file with
  | missing =>
      simp only [read]
      split
      · exact ⟨rfl, rfl⟩
      · exact readAnswer_outcome names settings warned before name _ _
  | parsed answer =>
      simp only [read]
      split
      · exact ⟨rfl, rfl⟩
      · exact readAnswer_outcome names settings warned before name _ _
  | declared decls => exact ⟨rfl, rfl⟩
  | refused message => exact ⟨rfl, rfl⟩

end SourceFile

/-! ### Documents without halves -/

/-- A text does not differ from itself. -/
theorem Json.firstDifference?_self (cs : List Char) : Json.firstDifference? cs cs = none := by
  have hpairs : cs.zip cs = cs.map fun c => (c, c) := by simp [List.zip_eq_zipWith]
  have hsame : (cs.zip cs).takeWhile (fun pair => pair.1 == pair.2) = cs.zip cs := by
    rw [List.takeWhile_eq_self_iff, hpairs]
    simp
  change ((((cs.zip cs).drop ((cs.zip cs).takeWhile fun pair => pair.1 == pair.2).length).takeWhile
    fun pair => pair.1 != pair.2).head?.map _) = none
  rw [hsame, List.drop_length]
  rfl

/-- A document can be written to a file if its text is the same whatever stands for the halves. -/
theorem Schema.encodingError?_eq_none {node : Schema} {value : Json} (h : node.toJson = .ok value)
    (hlifted : value.lifted Json.countOfHalves = value.lifted (2 * Json.countOfHalves))
    (indent : Option Int) : node.encodingError? indent = none := by
  simp only [Schema.encodingError?, h, Json.encodingError?, hlifted]
  exact Json.firstDifference?_self _

namespace CommandLine

/-! ### One source file -/

section Files

variable (workspace : Workspace) (settings : Settings) (verbose : Bool)

/-- What becomes of a source file when it is the only one: its document, or why it has none. -/
def alone (name : String) : Except Failure Schema :=
  (lowerFile workspace settings verbose name {}).1

/-- The flags of the runs of the parser for a source file: of one run, or of none. -/
def parserRunsOf (name : String) : List (List String) :=
  ((workspace.sourceFile name).read workspace.names workspace.parser settings
    workspace.environment false name).parserFlags.toList

/-- **The document of a source file does not depend on the files before it.** -/
theorem lowerFile_outcome (name : String) (progress : Progress) :
    (lowerFile workspace settings verbose name progress).1 =
        alone workspace settings verbose name ∧
      (lowerFile workspace settings verbose name progress).2.parserRuns =
        progress.parserRuns ++ parserRunsOf workspace settings name := by
  obtain ⟨houtcome, hflags⟩ := (workspace.sourceFile name).read_outcome workspace.names
    workspace.parser settings workspace.environment progress.warned false name
  simp only [alone, lowerFile, parserRunsOf, houtcome, hflags]
  split <;> exact ⟨rfl, rfl⟩

/-! ### Source files in order -/

/-- The first source file is lowered, and then the others where it left off. -/
theorem lowerFiles_cons (name : String) (names : List String) (progress : Progress) :
    lowerFiles workspace settings verbose (name :: names) progress =
      match lowerFile workspace settings verbose name progress with
      | (.error failure, after) => (.error failure, after)
      | (.ok document, middle) =>
        match lowerFiles workspace settings verbose names middle with
        | (.error failure, after) => (.error failure, after)
        | (.ok documents, after) => (.ok (document :: documents), after) := by
  simp only [lowerFiles, Bind.bind, ExceptT.bind, ExceptT.mk, StateT.bind]
  rcases lowerFile workspace settings verbose name progress with ⟨failure | document, middle⟩
  · rfl
  · simp only [ExceptT.bindCont, StateT.bind]
    rcases lowerFiles workspace settings verbose names middle with ⟨failure | documents, after⟩ <;>
      rfl

/-- If all files have documents, these are the documents of the run. -/
theorem lowerFiles_of_all {names : List String} {documents : List Schema}
    (h : names.map (alone workspace settings verbose) = documents.map .ok) (progress : Progress) :
    ∃ after, lowerFiles workspace settings verbose names progress = (.ok documents, after) ∧
      after.parserRuns =
        progress.parserRuns ++ names.flatMap (parserRunsOf workspace settings) := by
  induction names generalizing documents progress with
  | nil =>
      cases documents with
      | nil => exact ⟨progress, rfl, by simp⟩
      | cons document documents => simp at h
  | cons name names ih =>
      cases documents with
      | nil => simp at h
      | cons document documents =>
          rw [List.map_cons, List.map_cons, List.cons.injEq] at h
          obtain ⟨hfirst, hruns⟩ := lowerFile_outcome workspace settings verbose name progress
          rw [h.1] at hfirst
          rcases hfile : lowerFile workspace settings verbose name progress with ⟨outcome, middle⟩
          rw [hfile] at hfirst hruns
          obtain rfl : outcome = .ok document := hfirst
          obtain ⟨after, hrest, hafter⟩ := ih h.2 middle
          refine ⟨after, ?_, ?_⟩
          · simp only [lowerFiles_cons, hfile, hrest]
          · rw [hafter, hruns, List.append_assoc, List.flatMap_cons]

/-- If a file has no document and all files before it have, the run stops there. -/
theorem lowerFiles_of_failure {before : List String} {name : String} {failure : Failure}
    (hbefore : ∀ other ∈ before, ∃ document, alone workspace settings verbose other = .ok document)
    (hname : alone workspace settings verbose name = .error failure) (rest : List String)
    (progress : Progress) :
    ∃ after, lowerFiles workspace settings verbose (before ++ name :: rest) progress =
        (.error failure, after) ∧
      after.parserRuns =
        progress.parserRuns ++ (before ++ [name]).flatMap (parserRunsOf workspace settings) := by
  induction before generalizing progress with
  | nil =>
      obtain ⟨hfirst, hruns⟩ := lowerFile_outcome workspace settings verbose name progress
      rw [hname] at hfirst
      rcases hfile : lowerFile workspace settings verbose name progress with ⟨outcome, middle⟩
      rw [hfile] at hfirst hruns
      obtain rfl : outcome = .error failure := hfirst
      refine ⟨middle, ?_, by simpa using hruns⟩
      simp only [List.nil_append, lowerFiles_cons, hfile]
  | cons other before ih =>
      obtain ⟨document, hdocument⟩ := hbefore other (List.mem_cons_self ..)
      obtain ⟨hfirst, hruns⟩ := lowerFile_outcome workspace settings verbose other progress
      rw [hdocument] at hfirst
      rcases hfile : lowerFile workspace settings verbose other progress with ⟨outcome, middle⟩
      rw [hfile] at hfirst hruns
      obtain rfl : outcome = .ok document := hfirst
      obtain ⟨after, hrest, hafter⟩ :=
        ih (fun another hanother => hbefore another (List.mem_cons_of_mem _ hanother)) middle
      refine ⟨after, ?_, ?_⟩
      · simp only [List.cons_append, lowerFiles_cons, hfile, hrest]
      · rw [hafter, hruns, List.append_assoc, List.cons_append, List.flatMap_cons]

end Files

/-! ### Failures that are reported -/

/-- Whether a run reports a failure of a source file and ends with a status. -/
def Failure.isReported : Failure → Bool
  | .source _ (.flagWords _) => false
  | .source _ (.literal _) => false
  | _ => true

/-- The status with which a run ends at a failure. -/
def Failure.status : Failure → Nat
  | .source .. => 1
  | .lowering .. => 2

theorem Failure.ending_of_isReported {failure : Failure} (h : failure.isReported = true) :
    failure.ending.1 = .finished failure.status := by
  cases failure with
  | lowering name e => rfl
  | source name e => cases e <;> first | rfl | simp [isReported] at h

end CommandLine

/-- Whether a run reports that it finds no settings and ends with a status. -/
def SettingsError.isReported : SettingsError → Bool
  | .flagWords _ => false
  | .unreadable .nullByte => false
  | .reader _ => false
  | .keyDigits => false
  | _ => true

namespace CommandLine

theorem endingWithoutSettings_eq {e : SettingsError} (h : e.isReported = true) (name : String) :
    endingWithoutSettings name e = (.finished 1, some (e.message name)) := by
  cases e with
  | flagWords fault => cases h
  | unreadable fault =>
      cases fault with
      | nullByte => cases h
      | _ => rfl
  | reader failure => cases h
  | keyDigits => cases h
  | _ => rfl

/-! ### What a run writes -/

/-- A run that ends with a status and writes nothing. -/
structure Silent (report : Report) (status : Nat) (parserRuns : List (List String)) : Prop where
  ending : report.ending = .finished status
  output : report.output = ""
  written : report.written = none
  parserRuns : report.parserRuns = parserRuns

/-- A run that succeeds and writes one text, either to its output or to a file. -/
structure Emits (workspace : Workspace) (report : Report) (out : Option String) (text : String)
    (parserRuns : List (List String)) : Prop where
  ending : report.ending = .finished 0
  parserRuns : report.parserRuns = parserRuns
  toOutput : out = none → report.output = text ∧ report.written = none
  toFile : ∀ name, out = some name → ∃ place, workspace.tree.writePlace name = .ok place ∧
    report.output = "" ∧ report.written = some ⟨name, place, text⟩

theorem emits_emit {workspace : Workspace} {progress : Progress} {out : Option String}
    {text : String} {encodingError : Unit → Option EncodingError}
    (hencoding : encodingError () = none)
    (hout : ∀ name, out = some name → ∃ place, workspace.tree.writePlace name = .ok place) :
    Emits workspace (emit workspace progress out text encodingError) out text
      progress.parserRuns := by
  cases out with
  | none => exact ⟨rfl, rfl, fun _ => ⟨rfl, rfl⟩, nofun⟩
  | some name =>
      obtain ⟨place, hplace⟩ := hout name rfl
      have hemit : emit workspace progress (some name) text encodingError =
          { ending := .finished 0, log := progress.log, parserRuns := progress.parserRuns
            written := some ⟨name, place, text⟩ } := by
        simp only [emit, hplace, hencoding]
      rw [hemit]
      refine ⟨rfl, rfl, nofun, ?_⟩
      rintro _ ⟨⟩
      exact ⟨place, hplace, rfl, rfl⟩

/-! ### Runs -/

section Lower

variable {workspace : Workspace} {arguments : LowerArguments} {settings : Settings}

/-- A run without settings does nothing but end and log a message. -/
theorem lower_eq_of_settingsError {name : String} {e : SettingsError} {log : List String}
    (hname : given arguments.config = some name)
    (h : loadSettings workspace.readsSettings name (workspace.settingsFile name) =
      (.error e, log)) :
    lower workspace arguments =
      { ending := (endingWithoutSettings name e).1
        log := log ++ (endingWithoutSettings name e).2.toList } := by
  have hsettings : settingsOf workspace arguments =
      (.error (endingWithoutSettings name e), log) := by
    simp only [settingsOf, hname, h]
    rfl
  rw [lower, hsettings]

theorem lower_of_settingsError {name : String} {e : SettingsError} {log : List String}
    (hname : given arguments.config = some name)
    (h : loadSettings workspace.readsSettings name (workspace.settingsFile name) = (.error e, log))
    (he : e.isReported = true) : Silent (lower workspace arguments) 1 [] := by
  rw [lower_eq_of_settingsError hname h, endingWithoutSettings_eq he]
  exact ⟨rfl, rfl, rfl, rfl⟩

/-- The report of a run with settings, by what becomes of its files. -/
theorem lower_of_failure (hsettings : (settingsOf workspace arguments).1 = .ok settings)
    {before after : List String} {name : String} {failure : Failure}
    (hfiles : arguments.files = before ++ name :: after)
    (hbefore : ∀ other ∈ before,
      ∃ document, alone workspace settings arguments.verbose other = .ok document)
    (hname : alone workspace settings arguments.verbose name = .error failure)
    (hreported : failure.isReported = true) :
    Silent (lower workspace arguments) failure.status
      ((before ++ [name]).flatMap (parserRunsOf workspace settings)) := by
  rcases hpair : settingsOf workspace arguments with ⟨outcome, log⟩
  rw [hpair] at hsettings
  obtain rfl : outcome = .ok settings := hsettings
  obtain ⟨progress, hlower, hruns⟩ := lowerFiles_of_failure workspace settings arguments.verbose
    hbefore hname after { log }
  rw [← hfiles] at hlower
  rcases hending : failure.ending with ⟨ending, message⟩
  have hfinished := Failure.ending_of_isReported hreported
  rw [hending] at hfinished
  obtain rfl : ending = .finished failure.status := hfinished
  simp only [lower, hpair, hlower, hending]
  exact ⟨rfl, rfl, rfl, by simpa using hruns⟩

theorem lower_of_all (hsettings : (settingsOf workspace arguments).1 = .ok settings)
    {documents : List Schema}
    (hall : arguments.files.map (alone workspace settings arguments.verbose) =
      documents.map .ok) :
    ∃ progress : Progress,
      progress.parserRuns = arguments.files.flatMap (parserRunsOf workspace settings) ∧
      lower workspace arguments =
        match textOf workspace (indentOf? arguments settings) (payload documents) with
      | .ok text => emit workspace progress (given arguments.out) (text ++ "\n") fun _ =>
          (payload documents).encodingError? (indentOf? arguments settings)
      | .error ending =>
        { ending, log := progress.log, parserRuns := progress.parserRuns } := by
  rcases hpair : settingsOf workspace arguments with ⟨outcome, log⟩
  rw [hpair] at hsettings
  obtain rfl : outcome = .ok settings := hsettings
  obtain ⟨progress, hlower, hruns⟩ :=
    lowerFiles_of_all workspace settings arguments.verbose hall { log }
  refine ⟨progress, by simpa using hruns, ?_⟩
  cases htext : textOf workspace (indentOf? arguments settings) (payload documents) with
  | ok text => simp only [lower, hpair, hlower, htext]
  | error ending => simp only [lower, hpair, hlower, htext]

end Lower

/-- **A run writes the documents of all its files, or nothing.**  Without settings it ends before
any file is parsed.  If every file has a document by itself, the run writes their text once; if that
text does not exist, it writes nothing.  Otherwise it ends at the first file without a document, and
the files after that are not parsed. -/
theorem run_of_readArguments {workspace : Workspace} {argv : List String}
    {arguments : LowerArguments} (h : readArguments argv = .ok arguments) :
    (∀ name e log, given arguments.config = some name →
      loadSettings workspace.readsSettings name (workspace.settingsFile name) = (.error e, log) →
      e.isReported = true → Silent (run workspace argv) 1 []) ∧
    ∀ settings, (settingsOf workspace arguments).1 = .ok settings →
      (∀ documents, arguments.files.map (alone workspace settings arguments.verbose) =
          documents.map .ok →
        (∀ indent text, indentOf? arguments settings = some indent →
          (payload documents).documentText workspace.room (some indent) = .ok text →
          (payload documents).encodingError? (some indent) = none →
          (∀ name, given arguments.out = some name →
            ∃ place, workspace.tree.writePlace name = .ok place) →
          Emits workspace (run workspace argv) (given arguments.out) (text ++ "\n")
            (arguments.files.flatMap (parserRunsOf workspace settings))) ∧
        ∀ ending,
          textOf workspace (indentOf? arguments settings) (payload documents) = .error ending →
          (run workspace argv).ending = ending ∧ (run workspace argv).output = "" ∧
            (run workspace argv).written = none) ∧
      ∀ before name after failure, arguments.files = before ++ name :: after →
        (∀ other ∈ before,
          ∃ document, alone workspace settings arguments.verbose other = .ok document) →
        alone workspace settings arguments.verbose name = .error failure →
        failure.isReported = true →
        Silent (run workspace argv) failure.status
          ((before ++ [name]).flatMap (parserRunsOf workspace settings)) := by
  have hrun : run workspace argv = lower workspace arguments := by rw [run, h]
  rw [hrun]
  refine ⟨fun name e log hname hload he => lower_of_settingsError hname hload he,
    fun settings hsettings => ⟨fun documents hall => ?_, ?_⟩⟩
  · obtain ⟨progress, hruns, hlower⟩ := lower_of_all hsettings hall
    rw [hlower, ← hruns]
    constructor
    · intro indent text hindent htext hencoding hout
      have hok :
          textOf workspace (indentOf? arguments settings) (payload documents) = .ok text := by
        rw [hindent, textOf, htext]
        rfl
      rw [hok, hindent]
      exact emits_emit hencoding hout
    · intro ending hending
      rw [hending]
      exact ⟨rfl, rfl, rfl⟩
  · intro before name after failure hfiles hbefore hname hreported
    exact lower_of_failure hsettings hfiles hbefore hname hreported

/-! ### Two files -/

theorem eq_ok_of_toOption {ε α : Type} {x : Except ε α} {a : α} (h : x.toOption = some a) :
    x = .ok a := by
  cases x with
  | error e => nomatch h
  | ok b => exact congrArg Except.ok (Option.some.inj h)

/-- The declaration `int x;` of a source file. -/
def declarationOfX (name : String) : Cursor :=
  .mk
    { kind := .varDecl, category := .declaration, spelling := "x"
      location := some ⟨1, 5, 4, some name⟩
      type := .mk { sort := .integer, kindSpelling := "Int", spelling := "int" } none none [] }
    [] []

/-- The document of such a source file. -/
def documentOfX : Schema :=
  .document 0 [.var 1 ⟨1, 5⟩ "x" (.type 2 "int" .absent) false false .absent false]

/-- The text of this document. -/
def textOfX : String :=
  "\n".intercalate
    ["\x7b", "    \"id\": 0,", "    \"statements\": [", "        \x7b",
     "            \"id\": 1,", "            \"line\": 1,", "            \"column\": 5,",
     "            \"type\": \"variable-declaration\",", "            \"name\": \"x\",",
     "            \"data-type\": \x7b", "                \"id\": 2,",
     "                \"name\": \"int\"", "            \x7d,",
     "            \"is-reference\": false,", "            \"is-const\": false", "        \x7d",
     "    ]", "\x7d"]

/-- A source file for the parser.  No other file is there. -/
def oneFile : Workspace where
  room := 4096
  sourceFiles := [("a.cpp", .parsed (.accepted [] [declarationOfX "a.cpp"]))]

theorem alone_oneFile : alone oneFile {} false "a.cpp" = .ok documentOfX := by
  rfl

/-- The file alone is written; with one that is not there nothing is. -/
theorem run_twoFiles :
    readArguments ["lower", "a.cpp"] = .ok { files := ["a.cpp"] } ∧
      readArguments ["lower", "a.cpp", "b.cpp"] = .ok { files := ["a.cpp", "b.cpp"] } ∧
      Emits oneFile (run oneFile ["lower", "a.cpp"]) none
        (textOfX ++ "\n") [["-x", "c++", "-std=c++11"]] ∧
      Silent (run oneFile ["lower", "a.cpp", "b.cpp"]) 1 [["-x", "c++", "-std=c++11"]] := by
  have hone : readArguments ["lower", "a.cpp"] = .ok { files := ["a.cpp"] } := rfl
  have htwo : readArguments ["lower", "a.cpp", "b.cpp"] = .ok { files := ["a.cpp", "b.cpp"] } := rfl
  refine ⟨hone, htwo, ?_, ?_⟩
  · have htext : (payload [documentOfX]).documentText 4096 (some 4) = .ok textOfX :=
      eq_ok_of_toOption (by decide +kernel)
    have hall := ((@run_of_readArguments oneFile _ _ hone).2 {} rfl).1 [documentOfX]
      (congrArg (fun outcome => [outcome]) alone_oneFile)
    exact hall.1 4 _ rfl htext (Schema.encodingError?_eq_none rfl rfl _) nofun
  · have hfirst := ((@run_of_readArguments oneFile _ _ htwo).2 {} rfl).2
    refine hfirst ["a.cpp"] "b.cpp" [] (.source "b.cpp" .missing) rfl ?_ rfl rfl
    intro other hother
    rw [List.mem_singleton.1 hother]
    exact ⟨documentOfX, alone_oneFile⟩

/-- A document has no text with an indentation beyond all counts, although its file could be
lowered. -/
theorem run_indentRange :
    let argv := ["lower", "--indent", "-9223372036854775809", "a.cpp"]
    let arguments : LowerArguments :=
      { indent := some (.spaces (-9223372036854775809)), files := ["a.cpp"] }
    readArguments argv = .ok arguments ∧ (settingsOf oneFile arguments).1 = .ok {} ∧
      arguments.files.map (alone oneFile {} arguments.verbose) = [.ok documentOfX] ∧
      (run oneFile argv).ending = .document (.text .indentRange) :=
  ⟨eq_ok_of_toOption (by decide +kernel), rfl,
    congrArg (fun outcome => [outcome]) alone_oneFile, by decide +kernel⟩

end CommandLine

end TeachingTree

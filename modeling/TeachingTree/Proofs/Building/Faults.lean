/-
**Why reading a source file fails.**

A failure to read a file is one of those that are reported, such as a missing file or a fatal
complaint of the parser, with two exceptions.  The flags of the environment may be no words; then
the parser never runs.  And a literal may have no node: building the source tree stops there.  All
this holds whatever names of characters the reader of literals knows.

Main definitions:

* `Build.Raises` — a property of all that stops an action;
* `SourceError.isDocumented` — the failures that are reported;
* `SourceFile.ReachesFlags` — files that are read as far as to the flags of the parser.

Main results:

* `Building.raises_buildUnit` — what stops the builder is the fault of a literal of the program;
* `SourceFile.failures_of_read` — **reading a file fails as documented, or because of the flags or
  of a literal**.
-/

import TeachingTree.Proofs.Building.Literals
import TeachingTree.SourceFile

set_option relaxedAutoImplicit false
set_option autoImplicit false

namespace TeachingTree

/-! ### What stops an action -/

namespace Build

variable {α β : Type}

/-- A property of all that stops an action, in whatever state. -/
def Raises (Q : LiteralError → Prop) (action : Build α) : Prop :=
  ∀ (s : Building.State) (e : LiteralError), (action s).1 = .error e → Q e

variable {Q : LiteralError → Prop}

theorem raises_pure (a : α) : Raises Q (pure a : Build α) := by
  intro s e h
  cases h

theorem raises_warnOnce (line : String) : Raises Q (warnOnce line) := by
  intro s e h
  cases h

theorem Raises.bind {x : Build α} {f : α → Build β} (hx : Raises Q x)
    (hf : ∀ a, Raises Q (f a)) : Raises Q (x >>= f) := by
  intro s e h
  rw [bind_apply] at h
  rcases hrun : x s with ⟨e' | a, after⟩
  · rw [hrun] at h
    obtain rfl : e' = e := Except.error.inj h
    exact hx s e' (by rw [hrun])
  · rw [hrun] at h
    exact hf a after e h

/-- That all that stops an action has a property goes over to sequences. -/
def Law.raises (Q : LiteralError → Prop) : Law := ⟨Raises Q, raises_pure, raises_warnOnce, .bind⟩

/-- Nothing but the fault stops an action that is decided. -/
theorem Decided.raises {fault : Option LiteralError} {action : Build α} (h : Decided fault action)
    (hfault : ∀ e, fault = some e → Q e) : Raises Q action := by
  intro s e he
  cases fault with
  | none =>
      obtain ⟨a, ha⟩ := h
      rw [ha] at he
      cases he
  | some e' =>
      rw [h s] at he
      obtain rfl : e' = e := Except.error.inj he
      exact hfault e' rfl

end Build

namespace Building

open Build

/-! ### Programs -/

/-- The cursors of the declarations of a program. -/
def ownHeads (context : Context) (cursors : List Cursor) : List CursorHead :=
  Cursor.headsOf (cursors.filter (isOwnDeclaration context))

/-- **What stops the builder is the fault of a literal** in a declaration of the program. -/
theorem raises_buildUnit (names : Text.CharacterNames) (mainFile : String) (mainFileOnly : Bool)
    (cursors : List Cursor) :
    let context := Context.ofCursors names mainFile mainFileOnly cursors
    Raises (fun e => ∃ head ∈ ownHeads context cursors, literalFault? context head = some e)
      (buildUnit names mainFile mainFileOnly cursors) := by
  refine holds_buildUnit (.raises _) names mainFile mainFileOnly ?_
  intro cursor hcursor hown head hhead
  refine onLiteral_of_decided fun action haction => haction.raises fun e he => ⟨head, ?_, he⟩
  exact Cursor.heads_subset_headsOf (List.mem_filter.2 ⟨hcursor, hown⟩) hhead

end Building

/-! ### Source files -/

/-- Whether a failure is one of those that are reported for a file that cannot be read. -/
def SourceError.isDocumented : SourceError → Bool
  | .flagWords _ => false
  | .literal _ => false
  | _ => true

namespace SourceFile

variable (names : Text.CharacterNames) (parser : Parser) (settings : Settings)
  (environment : Option String) (warned : Bool) (name : String)

/-- Reading a file gets as far as to the flags of the parser: there is a parser that starts, and
there is a file for it. -/
def ReachesFlags (parser : Parser) (file : SourceFile) : Prop :=
  parser.isInstalled = true ∧ parser.failure = none ∧ ∃ answer, file = .parsed answer

/-- What keeps the parser from running is documented, but for its flags. -/
theorem prepare_failure {file : Option ParserAnswer} {e : SourceError}
    (h : prepare parser settings environment file = .error e) :
    e.isDocumented = true ∨
      ∃ fault, e = .flagWords fault ∧ parser.isInstalled = true ∧ parser.failure = none ∧
        file.isSome = true ∧ settings.parserFlags environment = .error fault := by
  unfold prepare at h
  split at h
  · cases h
    exact .inl rfl
  · rename_i hinstalled
    split at h
    · cases h
      exact .inl rfl
    · rename_i answer
      split at h
      · cases h
        exact .inl rfl
      · rename_i hfailure
        split at h
        · cases h
        · rename_i fault hfault
          cases h
          exact .inr ⟨fault, rfl, by simpa using hinstalled, hfailure, rfl, hfault⟩

/-- The parser runs on a file that exists. -/
theorem prepare_success {file : Option ParserAnswer} {flags : List String} {answer : ParserAnswer}
    (h : prepare parser settings environment file = .ok (flags, answer)) : file = some answer := by
  unfold prepare at h
  split at h
  · cases h
  · split at h
    · cases h
    · split at h
      · cases h
      · split at h <;> cases h
        rfl

/-- What fails after the parser has run is documented, but for the literals. -/
theorem readAnswer_failure (flags : List String) {answer : ParserAnswer} {e : SourceError}
    (h : (readAnswer names settings warned name flags answer).outcome = .error e) :
    e.isDocumented = true ∨
      ∃ fault diagnostics cursors, e = .literal fault ∧ answer = .accepted diagnostics cursors ∧
        let context := Building.Context.ofCursors names name settings.mainFileOnly cursors
        ∃ head ∈ Building.ownHeads context cursors,
          Building.literalFault? context head = some fault := by
  cases answer with
  | rejected reason =>
      cases h
      exact .inl rfl
  | accepted diagnostics cursors =>
      simp only [readAnswer] at h
      split at h
      · cases h
        exact .inl rfl
      · have hraises := Building.raises_buildUnit names name settings.mainFileOnly cursors
          ⟨warned, (diagnostics.filter Diagnostic.isError).map (Diagnostic.message name)⟩
        rcases hrun : Building.buildUnit names name settings.mainFileOnly cursors
          ⟨warned, (diagnostics.filter Diagnostic.isError).map (Diagnostic.message name)⟩ with
          ⟨fault | decls, after⟩
        · rw [hrun] at h hraises
          cases h
          exact .inr ⟨fault, diagnostics, cursors, rfl, rfl, hraises fault rfl⟩
        · rw [hrun] at h
          cases h

/-- **How reading a source file fails.**  A failure that is not documented is that of flags of the
environment that are no words, or that of a literal in a declaration of the file.  Flags that are
no words make every reading fail that gets to them, and a literal stops the builder that comes to it
exactly if it has a fault.  A number that cannot be read has none unless it is hexadecimal and too
large: its node says that it is not modeled. -/
theorem failures_of_read (file : SourceFile) :
    (∀ e, (file.read names parser settings environment warned name).outcome = .error e →
      e.isDocumented = true ∨
      (∃ fault, e = .flagWords fault ∧ ReachesFlags parser file ∧
        settings.parserFlags environment = .error fault) ∨
      ∃ fault diagnostics cursors, e = .literal fault ∧
        file = .parsed (.accepted diagnostics cursors) ∧
        let context := Building.Context.ofCursors names name settings.mainFileOnly cursors
        ∃ head ∈ Building.ownHeads context cursors,
          Building.literalFault? context head = some fault) ∧
    (∀ fault, ReachesFlags parser file → settings.parserFlags environment = .error fault →
      (file.read names parser settings environment warned name).outcome =
        .error (.flagWords fault)) ∧
    (∀ context head children arguments, Building.isLiteral head = true →
      Build.Decided (Building.literalFault? context head)
        (Building.expression context (.mk head children arguments))) ∧
    ∀ context head children arguments s fault,
      Building.textFault? context.macros head = some fault →
        Building.expression context (.mk head children arguments) s =
          if fault = .tooLarge then (.error fault, s)
          else (.ok (.unmodeled head.kind.name head.position), s) := by
  refine ⟨?_, ?_, ?_, ?_⟩
  · intro e h
    cases file with
    | missing =>
        simp only [read] at h
        split at h
        · rename_i e' hprepare
          cases h
          obtain hdocumented | ⟨fault, -, -, -, hsome, -⟩ :=
            prepare_failure parser settings environment hprepare
          · exact .inl hdocumented
          · cases hsome
        · rename_i flags answer hprepare
          cases prepare_success parser settings environment hprepare
    | parsed answer =>
        simp only [read] at h
        split at h
        · rename_i e' hprepare
          cases h
          obtain hdocumented | ⟨fault, rfl, hinstalled, hfailure, -, hflags⟩ :=
            prepare_failure parser settings environment hprepare
          · exact .inl hdocumented
          · exact .inr (.inl ⟨fault, rfl, ⟨hinstalled, hfailure, answer, rfl⟩, hflags⟩)
        · rename_i flags answer' hprepare
          obtain rfl : answer = answer' :=
            Option.some.inj (prepare_success parser settings environment hprepare)
          obtain hdocumented | ⟨fault, diagnostics, cursors, rfl, rfl, hliteral⟩ :=
            readAnswer_failure names settings warned name flags h
          · exact .inl hdocumented
          · exact .inr (.inr ⟨fault, diagnostics, cursors, rfl, rfl, hliteral⟩)
    | declared decls => cases h
    | refused message =>
        cases h
        exact .inl rfl
  · rintro fault ⟨hinstalled, hfailure, answer, rfl⟩ hflags
    simp [read, prepare, hinstalled, hfailure, hflags]
  · intro context head children arguments hliteral
    exact Building.decided_literal context hliteral children arguments
  · intro context head children arguments s fault hfault
    exact Building.expression_of_textFault context hfault children arguments s

/-- The declaration `double x = …;` of a source file with a number that the parser has not
computed. -/
def numberDeclaration (text : String) : Cursor :=
  let place (offset : Int) : Option Place := some ⟨1, offset + 1, offset, some "main.cpp"⟩
  let double : CursorType :=
    .mk { sort := .floating, kindSpelling := "Double", spelling := "double" } none none []
  let stop : Int := 11 + text.length
  let number : Token := ⟨text, 11, stop⟩
  .mk
    { kind := .varDecl, category := .declaration, spelling := "x", location := place 7,
      start := place 0, stop := place stop, type := double
      tokens := [⟨"double", 0, 6⟩, ⟨"x", 7, 8⟩, ⟨"=", 9, 10⟩, number] }
    [.mk
      { kind := .floatingLiteral, category := .expression, location := place 11,
        start := place 11, stop := place stop, type := double, tokens := [number] } [] []] []

/-- The source file of such a declaration. -/
def numberFile (text : String) : SourceFile := .parsed (.accepted [] [numberDeclaration text])

/-- A table with the name of one character. -/
def bulletNames : Text.CharacterNames := .ofList [("BULLET", '\u2022')]

/-- The token `"\N{BULLET}","x"` of a text: a row of two texts. -/
def rowLiteral : CursorHead where
  kind := .stringLiteral
  tokens := [⟨"\"\\N\x7bBULLET\x7d\",\"x\"", 0, 16⟩]

theorem read_hexadecimal :
    ((numberFile "0x1p1024").read bulletNames {} {} none false "main.cpp").outcome =
      .error (.literal .tooLarge) := by with_unfolding_all rfl

/-- Reading `double x = 0x1p1024;` fails because of a literal of the file, and reading any file
fails where a quote is left open in the flags.  A text fails whose token is a row with the name of
a character in it, but the number `1e` has a node. -/
theorem failures_of_numberFile :
    (((numberFile "0x1p1024").read bulletNames {} {} none false "main.cpp").outcome =
        .error (.literal .tooLarge) ∧
      let context := Building.Context.ofCursors bulletNames "main.cpp" true
        [numberDeclaration "0x1p1024"]
      ∃ head ∈ Building.ownHeads context [numberDeclaration "0x1p1024"],
        Building.literalFault? context head = some .tooLarge) ∧
    ((numberFile "2.5").read bulletNames {} {} (some "-DNAME='x") false "main.cpp").outcome =
      .error (.flagWords .openQuote) ∧
    (∀ s, Building.expression { mainFile := "main.cpp", names := bulletNames }
        (.mk rowLiteral [] []) s = (.error (.notText 0), s)) ∧
    Building.expression { mainFile := "main.cpp" }
        (.mk { kind := .floatingLiteral, tokens := [⟨"1e", 0, 2⟩] } [] []) {} =
      (.ok (.unmodeled "FLOATING_LITERAL" .unknown), {}) := by
  refine ⟨⟨read_hexadecimal, ?_⟩, ?_, ?_, ?_⟩
  · obtain hdocumented | ⟨fault, hfault, -⟩ |
        ⟨fault, diagnostics, cursors, hfault, hfile, hliteral⟩ :=
      (failures_of_read bulletNames {} {} none false "main.cpp" (numberFile "0x1p1024")).1 _
        read_hexadecimal
    · cases hdocumented
    · cases hfault
    · rw [numberFile] at hfile
      cases hfault
      cases hfile
      exact hliteral
  · have hflags : ({} : Settings).parserFlags (some "-DNAME='x") = .error .openQuote := rfl
    exact (failures_of_read bulletNames {} {} (some "-DNAME='x") false "main.cpp"
      (numberFile "2.5")).2.1 .openQuote ⟨rfl, rfl, _, rfl⟩ hflags
  · have hdecided := (failures_of_read bulletNames {} {} none false "main.cpp" .missing).2.2.1
      { mainFile := "main.cpp", names := bulletNames } rowLiteral [] [] rfl
    have hfault : Building.literalFault? { mainFile := "main.cpp", names := bulletNames }
        rowLiteral = some (.notText 0) := by decide +kernel
    rw [hfault] at hdecided
    exact hdecided
  · have hfault : Building.textFault? []
        { kind := .floatingLiteral, tokens := [⟨"1e", 0, 2⟩] } = some (.notFloating "1e") := by
      decide +kernel
    exact (failures_of_read bulletNames {} {} none false "main.cpp" .missing).2.2.2
      { mainFile := "main.cpp" } _ [] [] {} _ hfault

/-- Two failures that are not documented: a hexadecimal number that is too large, and flags of the
environment that leave a quote open. -/
theorem exists_undocumented_failure :
    ((numberFile "0x1p1024").read bulletNames {} {} none false "main.cpp").outcome =
        .error (.literal .tooLarge) ∧
      ((numberFile "2.5").read bulletNames {} {} (some "-DNAME='x") false "main.cpp").outcome =
        .error (.flagWords .openQuote) ∧
      SourceError.isDocumented (.literal .tooLarge) = false ∧
      SourceError.isDocumented (.flagWords .openQuote) = false :=
  ⟨read_hexadecimal, rfl, rfl, rfl⟩

end SourceFile

end TeachingTree

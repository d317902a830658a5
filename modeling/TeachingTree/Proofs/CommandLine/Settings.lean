/-
**How a settings file fails.**

A settings file that cannot be used ends a run with a status and a message, and a file that can be
used gives settings with a name for the standard and a number of spaces for the indentation.

Four failures are not reported.  A name with a null character is no name of a file.  The reader of
settings files finds errors in a text, but it may also fail in ways of its own.  Flags that are
given as one text need not have words: a quote in them may be left open, or a backslash may end
them.  And a key that is no setting is passed over with a line in the log, which an integer of too
many digits does not have.

The last two depend on where the reading stops.  The words are made as soon as the flags come up
among the entries, so their failure shows exactly if no entry before the flags is refused; a value
that is refused before them is reported, and one after them is never looked at.  It is the same with
the key.

Main definitions:

* `Setting.fault` — the error that names a field;
* `ComesTo` — whether the reading of entries comes to one of them;
* `StopsAtFlags`, `StopsAtKey` — whether it stops at flags that have no words, or at a key that
  cannot be shown.

Main results:

* `refusalOf?_cases` — the errors of an entry;
* `readEntries_eq_error_iff_comesTo` — entries fail exactly where the reading comes to one that is
  refused;
* `isSound_of_loadSettings` — the settings of a file are sound;
* `CommandLine.failures_of_loadSettings` — **which failures are not reported, and what becomes of
  the others**;
* `CommandLine.exists_unreported_settings` — a quote that is left open, a key that cannot be shown,
  and a failure of the reader end a run without a status.
-/

import TeachingTree.Proofs.CommandLine.Run
import TeachingTree.Proofs.Settings.Entries

set_option relaxedAutoImplicit false
set_option autoImplicit false

namespace TeachingTree

/-! ### Entries that are refused -/
/-- The error that names a field. -/
def Setting.fault : Setting → SettingsError
  | .flags => .flags
  | .standard => .standard
  | .indent => .indent
  | .mainFileOnly => .mainFileOnly

/-- A value is refused by the error that names its field, or it is a text of flags without words. -/
theorem Setting.refusal?_cases {setting : Setting} {value : SettingValue} {e : SettingsError}
    (h : setting.refusal? value = some e) :
    e = setting.fault ∨ ∃ text fault, setting = .flags ∧ value = .text text ∧
      shellWords text = .error fault ∧ e = .flagWords fault := by
  rw [refusal?, update_eq] at h
  revert h
  cases setting with
  | flags =>
      fun_cases readFlags value with
      | case1 text =>
          cases hwords : shellWords text with
          | ok words => rintro ⟨⟩
          | error fault =>
              rintro ⟨⟩
              exact .inr ⟨text, fault, rfl, rfl, hwords, rfl⟩
      | case2 => rintro ⟨⟩
      | _ =>
          rintro ⟨⟩
          exact .inl rfl
  | standard =>
      fun_cases readStandard value with
      | case2 => rintro ⟨⟩
      | _ =>
          rintro ⟨⟩
          exact .inl rfl
  | indent =>
      fun_cases readIndent value with
      | case1 => rintro ⟨⟩
      | _ =>
          rintro ⟨⟩
          exact .inl rfl
  | mainFileOnly =>
      fun_cases readMainFileOnly value with
      | case1 => rintro ⟨⟩
      | _ =>
          rintro ⟨⟩
          exact .inl rfl

/-- An entry is refused by the error that names its field, or because it is a text of flags without
words, or because its key is an integer with too many digits. -/
theorem refusalOf?_cases {entry : SettingKey × SettingValue} {e : SettingsError}
    (h : refusalOf? entry = some e) :
    (∃ setting : Setting, e = setting.fault) ∨
      (∃ text fault, entry = (Setting.flags.key, .text text) ∧
        shellWords text = .error fault ∧ e = .flagWords fault) ∨
      ∃ n value, entry = (.integer n, value) ∧ fitsDigits n = false ∧ e = .keyDigits := by
  obtain ⟨key, value⟩ := entry
  rw [refusalOf?] at h
  cases hkey : Setting.ofKey? key with
  | none =>
      rw [hkey] at h
      cases hshown : key.shown?.isSome with
      | true => simp [hshown] at h
      | false =>
          obtain ⟨n, rfl, hfits⟩ := SettingKey.isSome_shown?_eq_false_iff.1 hshown
          simp only [hshown] at h
          cases h
          exact .inr (.inr ⟨n, value, rfl, hfits, rfl⟩)
  | some setting =>
      rw [hkey] at h
      obtain rfl : key = setting.key := Setting.ofKey?_eq_some_iff.1 hkey
      rcases Setting.refusal?_cases h with hfault | ⟨text, fault, rfl, rfl, hwords, rfl⟩
      · exact .inl ⟨setting, hfault⟩
      · exact .inr (.inl ⟨text, fault, rfl, hwords, rfl⟩)

/-- An entry is refused for want of words exactly if it gives flags as a text that has none. -/
theorem refusalOf?_eq_flagWords_iff {entry : SettingKey × SettingValue} {fault : ShellError} :
    refusalOf? entry = some (.flagWords fault) ↔
      ∃ text, entry = (Setting.flags.key, .text text) ∧ shellWords text = .error fault := by
  constructor
  · intro h
    rcases refusalOf?_cases h with
      ⟨setting, hfault⟩ | ⟨text, _, hentry, hwords, hfault⟩ | ⟨_, _, -, -, hfault⟩
    · cases setting <;> cases hfault
    · cases hfault
      exact ⟨text, hentry, hwords⟩
    · cases hfault
  · rintro ⟨text, rfl, hwords⟩
    simp [refusalOf?, Setting.ofKey?_eq_some_iff.2 rfl, Setting.refusal?, Setting.update,
      Setting.readFlags, hwords, Except.mapError, Except.map]

/-- An entry is refused for its key exactly if the key is an integer with too many digits. -/
theorem refusalOf?_eq_keyDigits_iff {entry : SettingKey × SettingValue} :
    refusalOf? entry = some .keyDigits ↔
      ∃ n value, entry = (.integer n, value) ∧ fitsDigits n = false := by
  constructor
  · intro h
    rcases refusalOf?_cases h with
      ⟨setting, hfault⟩ | ⟨_, _, -, -, hfault⟩ | ⟨n, value, hentry, hfits, -⟩
    · cases setting <;> cases hfault
    · cases hfault
    · exact ⟨n, value, hentry, hfits⟩
  · rintro ⟨n, value, rfl, hfits⟩
    exact refusalOf?_eq_keyDigits (SettingKey.isSome_shown?_eq_false_iff.2 ⟨n, rfl, hfits⟩)

/-- An entry is refused neither because of the file nor by the reader. -/
theorem refusalOf?_ne_ofFile (entry : SettingKey × SettingValue) :
    (∀ fault, refusalOf? entry ≠ some (.unreadable fault)) ∧
      ∀ failure, refusalOf? entry ≠ some (.reader failure) := by
  constructor <;>
  · intro _ h
    rcases refusalOf?_cases h with
      ⟨setting, hfault⟩ | ⟨_, _, -, -, hfault⟩ | ⟨_, _, -, -, hfault⟩
    · cases setting <;> cases hfault
    · cases hfault
    · cases hfault

/-! ### Where the reading stops -/

/-- Whether the reading of entries comes to one of them: no entry before it is refused. -/
def ComesTo (entries : List (SettingKey × SettingValue)) (entry : SettingKey × SettingValue) :
    Prop :=
  ∃ before after, entries = before ++ entry :: after ∧
    ∀ other ∈ before, refusalOf? other = none

/-- Entries fail exactly where the reading comes to one that is refused. -/
theorem readEntries_eq_error_iff_comesTo {settings : Settings} {e : SettingsError}
    {entries : List (SettingKey × SettingValue)} :
    (readEntries settings entries).1 = .error e ↔
      ∃ entry, ComesTo entries entry ∧ refusalOf? entry = some e := by
  rw [readEntries_eq_error_iff, List.findSome?_eq_some_iff]
  constructor
  · rintro ⟨before, entry, after, rfl, hrefusal, hbefore⟩
    exact ⟨entry, ⟨before, after, rfl, hbefore⟩, hrefusal⟩
  · rintro ⟨entry, ⟨before, after, rfl, hbefore⟩, hrefusal⟩
    exact ⟨before, entry, after, rfl, hrefusal, hbefore⟩

/-- Whether the reading of entries stops at flags that have no words. -/
def StopsAtFlags (entries : List (SettingKey × SettingValue)) (fault : ShellError) : Prop :=
  ∃ text, ComesTo entries (Setting.flags.key, .text text) ∧ shellWords text = .error fault

/-- Whether the reading of entries stops at a key that cannot be shown. -/
def StopsAtKey (entries : List (SettingKey × SettingValue)) : Prop :=
  ∃ n value, ComesTo entries (.integer n, value) ∧ fitsDigits n = false

theorem readEntries_eq_flagWords_iff {settings : Settings} {fault : ShellError}
    {entries : List (SettingKey × SettingValue)} :
    (readEntries settings entries).1 = .error (.flagWords fault) ↔ StopsAtFlags entries fault := by
  simp only [readEntries_eq_error_iff_comesTo, refusalOf?_eq_flagWords_iff]
  constructor
  · rintro ⟨_, hcomes, text, rfl, hwords⟩
    exact ⟨text, hcomes, hwords⟩
  · rintro ⟨text, hcomes, hwords⟩
    exact ⟨_, hcomes, text, rfl, hwords⟩

theorem readEntries_eq_keyDigits_iff {settings : Settings}
    {entries : List (SettingKey × SettingValue)} :
    (readEntries settings entries).1 = .error .keyDigits ↔ StopsAtKey entries := by
  simp only [readEntries_eq_error_iff_comesTo, refusalOf?_eq_keyDigits_iff]
  constructor
  · rintro ⟨_, hcomes, n, value, rfl, hfits⟩
    exact ⟨n, value, hcomes, hfits⟩
  · rintro ⟨n, value, hcomes, hfits⟩
    exact ⟨_, hcomes, n, value, rfl, hfits⟩

/-! ### Files -/

/-- What becomes of a settings file, by what it holds. -/
inductive Loads : Bool → Except FileFault SettingsFile → Except SettingsError Settings → Prop
  /-- Without a reader no file is opened. -/
  | noReader (file : Except FileFault SettingsFile) : Loads false file (.ok {})
  /-- The file cannot be opened. -/
  | unreadable (fault : FileFault) : Loads true (.error fault) (.error (.unreadable fault))
  /-- The text of the file holds no value. -/
  | malformed (reason : String) : Loads true (.ok (.malformed reason)) (.error (.malformed reason))
  /-- The reader fails at the file. -/
  | failing (failure : ReaderFailure) :
      Loads true (.ok (.failing failure)) (.error (.reader failure))
  /-- The file is empty. -/
  | null : Loads true (.ok (.holding .null)) (.ok {})
  /-- The file holds a mapping. -/
  | mapping (entries : List (SettingKey × SettingValue)) {outcome : Except SettingsError Settings}
      (h : (readEntries {} (mappingOf entries)).1 = outcome) :
      Loads true (.ok (.holding (.mapping entries))) outcome
  /-- The file holds another value. -/
  | notMapping (value : SettingValue) : Loads true (.ok (.holding value)) (.error .notMapping)

section Files

variable {name : String} {available : Bool} {file : Except FileFault SettingsFile}

theorem loads_of_loadSettings {outcome : Except SettingsError Settings}
    (h : (loadSettings available name file).1 = outcome) : Loads available file outcome := by
  subst h
  cases available with
  | false => exact .noReader file
  | true =>
      match file with
      | .error fault => exact .unreadable fault
      | .ok (.malformed reason) => exact .malformed reason
      | .ok (.failing failure) => exact .failing failure
      | .ok (.holding value) =>
          cases value with
          | null => exact .null
          | mapping entries => exact .mapping entries rfl
          | _ => exact .notMapping _

theorem isSound_of_loadSettings {settings : Settings}
    (h : (loadSettings available name file).1 = .ok settings) : settings.IsSound := by
  cases loads_of_loadSettings h with
  | noReader => exact isSound_default
  | null => exact isSound_default
  | mapping entries hread => exact isSound_of_readEntries hread isSound_default

theorem loadSettings_eq_flagWords_iff {fault : ShellError} :
    (loadSettings available name file).1 = .error (.flagWords fault) ↔
      available = true ∧ ∃ entries, file = .ok (.holding (.mapping entries)) ∧
        StopsAtFlags (mappingOf entries) fault := by
  constructor
  · intro h
    cases loads_of_loadSettings h with
    | mapping entries hread =>
        exact ⟨rfl, entries, rfl, readEntries_eq_flagWords_iff.1 hread⟩
  · rintro ⟨rfl, entries, rfl, hstops⟩
    exact readEntries_eq_flagWords_iff.2 hstops

theorem loadSettings_eq_keyDigits_iff :
    (loadSettings available name file).1 = .error .keyDigits ↔
      available = true ∧ ∃ entries, file = .ok (.holding (.mapping entries)) ∧
        StopsAtKey (mappingOf entries) := by
  constructor
  · intro h
    cases loads_of_loadSettings h with
    | mapping entries hread =>
        exact ⟨rfl, entries, rfl, readEntries_eq_keyDigits_iff.1 hread⟩
  · rintro ⟨rfl, entries, rfl, hstops⟩
    exact readEntries_eq_keyDigits_iff.2 hstops

theorem loadSettings_eq_unreadable_iff {fault : FileFault} :
    (loadSettings available name file).1 = .error (.unreadable fault) ↔
      available = true ∧ file = .error fault := by
  constructor
  · intro h
    cases loads_of_loadSettings h with
    | unreadable => exact ⟨rfl, rfl⟩
    | mapping entries hread =>
        obtain ⟨entry, -, hrefusal⟩ := readEntries_eq_error_iff_comesTo.1 hread
        exact absurd hrefusal ((refusalOf?_ne_ofFile entry).1 fault)
  · rintro ⟨rfl, rfl⟩
    rfl

theorem loadSettings_eq_reader_iff {failure : ReaderFailure} :
    (loadSettings available name file).1 = .error (.reader failure) ↔
      available = true ∧ file = .ok (.failing failure) := by
  constructor
  · intro h
    cases loads_of_loadSettings h with
    | failing => exact ⟨rfl, rfl⟩
    | mapping entries hread =>
        obtain ⟨entry, -, hrefusal⟩ := readEntries_eq_error_iff_comesTo.1 hread
        exact absurd hrefusal ((refusalOf?_ne_ofFile entry).2 failure)
  · rintro ⟨rfl, rfl⟩
    rfl

/-- There are four sorts of failures that are not reported. -/
theorem SettingsError.cases_of_isReported_eq_false {e : SettingsError}
    (h : e.isReported = false) :
    (∃ fault, e = .flagWords fault) ∨ e = .keyDigits ∨ e = .unreadable .nullByte ∨
      ∃ failure, e = .reader failure := by
  cases e with
  | flagWords fault => exact .inl ⟨fault, rfl⟩
  | keyDigits => exact .inr (.inl rfl)
  | unreadable fault =>
      cases fault with
      | nullByte => exact .inr (.inr (.inl rfl))
      | _ => cases h
  | reader failure => exact .inr (.inr (.inr ⟨failure, rfl⟩))
  | _ => cases h

/-- When a settings file fails in a way that is not reported. -/
theorem exists_unreported_iff :
    (∃ e, (loadSettings available name file).1 = .error e ∧ e.isReported = false) ↔
      available = true ∧ (file = .error .nullByte ∨ (∃ failure, file = .ok (.failing failure)) ∨
        ∃ entries, file = .ok (.holding (.mapping entries)) ∧
          (StopsAtKey (mappingOf entries) ∨
            ∃ fault, StopsAtFlags (mappingOf entries) fault)) := by
  constructor
  · rintro ⟨e, hload, hunreported⟩
    rcases SettingsError.cases_of_isReported_eq_false hunreported with
      ⟨fault, rfl⟩ | rfl | rfl | ⟨failure, rfl⟩
    · obtain ⟨havailable, entries, hfile, hstops⟩ := loadSettings_eq_flagWords_iff.1 hload
      exact ⟨havailable, .inr (.inr ⟨entries, hfile, .inr ⟨fault, hstops⟩⟩)⟩
    · obtain ⟨havailable, entries, hfile, hstops⟩ := loadSettings_eq_keyDigits_iff.1 hload
      exact ⟨havailable, .inr (.inr ⟨entries, hfile, .inl hstops⟩)⟩
    · obtain ⟨havailable, hfile⟩ := loadSettings_eq_unreadable_iff.1 hload
      exact ⟨havailable, .inl hfile⟩
    · obtain ⟨havailable, hfile⟩ := loadSettings_eq_reader_iff.1 hload
      exact ⟨havailable, .inr (.inl ⟨failure, hfile⟩)⟩
  · rintro ⟨havailable, hfile | ⟨failure, hfile⟩ | ⟨entries, hfile, hstops | ⟨fault, hstops⟩⟩⟩
    · exact ⟨_, loadSettings_eq_unreadable_iff.2 ⟨havailable, hfile⟩, rfl⟩
    · exact ⟨_, loadSettings_eq_reader_iff.2 ⟨havailable, hfile⟩, rfl⟩
    · exact ⟨_, loadSettings_eq_keyDigits_iff.2 ⟨havailable, entries, hfile, hstops⟩, rfl⟩
    · exact ⟨_, loadSettings_eq_flagWords_iff.2 ⟨havailable, entries, hfile, hstops⟩, rfl⟩

end Files

/-! ### Runs -/

namespace CommandLine

/-- A run that ends without a status. -/
def EndsWithoutStatus (report : Report) : Prop := ∀ status, report.ending ≠ .finished status

/-- A failure that is not reported ends a run without a status. -/
theorem endingWithoutSettings_ne_finished {e : SettingsError} (h : e.isReported = false)
    (name : String) (status : Nat) : (endingWithoutSettings name e).1 ≠ .finished status := by
  rcases SettingsError.cases_of_isReported_eq_false h with
    ⟨fault, rfl⟩ | rfl | rfl | ⟨failure, rfl⟩ <;>
  rintro ⟨⟩

/-- **How a settings file fails.**  The settings of a file are sound.  Flags that have no words, a
key that cannot be shown, a name that is no name and a failure of the reader are not reported, and
the first two show exactly if the reading comes to them.  All other failures end a run with a status
and a message, before any source file is parsed. -/
theorem failures_of_loadSettings (available : Bool) (name : String)
    (file : Except FileFault SettingsFile) :
    (∀ settings, (loadSettings available name file).1 = .ok settings → settings.IsSound) ∧
    (∀ fault, (loadSettings available name file).1 = .error (.flagWords fault) ↔
      available = true ∧ ∃ entries, file = .ok (.holding (.mapping entries)) ∧
        StopsAtFlags (mappingOf entries) fault) ∧
    ((loadSettings available name file).1 = .error .keyDigits ↔
      available = true ∧ ∃ entries, file = .ok (.holding (.mapping entries)) ∧
        StopsAtKey (mappingOf entries)) ∧
    ((loadSettings available name file).1 = .error (.unreadable .nullByte) ↔
      available = true ∧ file = .error .nullByte) ∧
    (∀ failure, (loadSettings available name file).1 = .error (.reader failure) ↔
      available = true ∧ file = .ok (.failing failure)) ∧
    ((∃ e, (loadSettings available name file).1 = .error e ∧ e.isReported = false) ↔
      available = true ∧ (file = .error .nullByte ∨ (∃ failure, file = .ok (.failing failure)) ∨
        ∃ entries, file = .ok (.holding (.mapping entries)) ∧
          (StopsAtKey (mappingOf entries) ∨ ∃ fault, StopsAtFlags (mappingOf entries) fault))) ∧
    ∀ workspace argv arguments e log, readArguments argv = .ok arguments →
      given arguments.config = some name → workspace.readsSettings = available →
      workspace.settingsFile name = file → loadSettings available name file = (.error e, log) →
      (e.isReported = true →
        run workspace argv = { ending := .finished 1, log := log ++ [e.message name] }) ∧
      (e.isReported = false → EndsWithoutStatus (run workspace argv)) := by
  refine ⟨fun settings => isSound_of_loadSettings, fun fault => loadSettings_eq_flagWords_iff,
    loadSettings_eq_keyDigits_iff, loadSettings_eq_unreadable_iff,
    fun failure => loadSettings_eq_reader_iff, exists_unreported_iff, ?_⟩
  rintro workspace argv arguments e log hread hname rfl rfl hload
  have hrun : run workspace argv =
      { ending := (endingWithoutSettings name e).1
        log := log ++ (endingWithoutSettings name e).2.toList } := by
    rw [run, hread]
    exact lower_eq_of_settingsError hname hload
  rw [hrun]
  constructor
  · intro hreported
    rw [endingWithoutSettings_eq hreported]
    rfl
  · intro hunreported
    exact endingWithoutSettings_ne_finished hunreported name

/-! ### A settings file and its run -/

/-- A settings file beside an empty source file. -/
def withSettings (file : SettingsFile) : Workspace where
  room := 4096
  settingsFiles := [("superast.yaml", file)]
  sourceFiles := [("main.cpp", .parsed (.accepted [] []))]

/-- A settings file that holds one entry. -/
def oneSetting (key : SettingKey) (value : SettingValue) : SettingsFile :=
  .holding (.mapping [(key, value)])

/-- The arguments of a run with this settings file. -/
def argvWithSettings : List String := ["lower", "--config", "superast.yaml", "main.cpp"]

theorem readArguments_withSettings : readArguments argvWithSettings =
    .ok { config := some "superast.yaml", files := ["main.cpp"] } := by
  rfl

theorem settingsFile_withSettings (file : SettingsFile) :
    (withSettings file).settingsFile "superast.yaml" = .ok file := by
  -- what stands in the file does not matter to where it is
  have hplace : (withSettings (.holding .null)).tree.readPlace "superast.yaml" =
      .ok (.place "superast.yaml") := eq_ok_of_toOption (by decide +kernel)
  change ((withSettings (.holding .null)).tree.readPlace "superast.yaml").map _ = _
  rw [hplace]
  simp [withSettings, Except.map]

/-- A failure comes with a log. -/
theorem exists_log {e : SettingsError} {reading : Except SettingsError Settings × List String}
    (h : reading.1 = .error e) : ∃ log, reading = (.error e, log) :=
  ⟨reading.2, Prod.ext h rfl⟩

theorem shellWords_unclosed : shellWords "'unclosed" = .error .openQuote := by
  rfl

/-- Flags with a quote that is left open. -/
def unclosedFlags : SettingsFile := oneSetting (.text "clang_args") (.text "'unclosed")

/-- A key with more digits than a number may have to be shown. -/
def longKey : SettingsFile := oneSetting (.integer (Int.ofNat tooLongFrom)) .null

/-- A month that does not exist. -/
def noMonth : SettingsFile := .failing (.noValue "ValueError" "month must be in 1..12")

theorem loadSettings_unclosedFlags :
    (loadSettings true "superast.yaml" (.ok unclosedFlags)).1 = .error (.flagWords .openQuote) :=
  loadSettings_eq_flagWords_iff.2
    ⟨rfl, _, rfl, "'unclosed", ⟨[], [], rfl, List.forall_mem_nil _⟩, shellWords_unclosed⟩

theorem loadSettings_longKey :
    (loadSettings true "superast.yaml" (.ok longKey)).1 = .error .keyDigits :=
  loadSettings_eq_keyDigits_iff.2
    ⟨rfl, _, rfl, Int.ofNat tooLongFrom, .null, ⟨[], [], rfl, List.forall_mem_nil _⟩,
      fitsDigits_tooLongFrom⟩

theorem loadSettings_noMonth :
    (loadSettings true "superast.yaml" (.ok noMonth)).1 =
      .error (.reader (.noValue "ValueError" "month must be in 1..12")) :=
  loadSettings_eq_reader_iff.2 ⟨rfl, rfl⟩

/-- A truth value for the indentation ends a run with a status.  A quote that is left open in the
flags does not, and neither does a key that cannot be shown or a month that does not exist. -/
theorem failures_of_oneSetting :
    (∃ settings : Settings, settings.IsSound ∧
      (loadSettings true "superast.yaml" (.ok (oneSetting (.text "indent") (.integer 2)))).1 =
        .ok settings) ∧
    run (withSettings (oneSetting (.text "indent") (.bool true))) argvWithSettings =
      { ending := .finished 1
        log := ["superast.yaml: 'indent' must be a non-negative integer."] } ∧
    EndsWithoutStatus (run (withSettings unclosedFlags) argvWithSettings) ∧
    EndsWithoutStatus (run (withSettings longKey) argvWithSettings) ∧
    EndsWithoutStatus (run (withSettings noMonth) argvWithSettings) := by
  have hfile := settingsFile_withSettings
  obtain ⟨_, hunclosed⟩ := exists_log loadSettings_unclosedFlags
  obtain ⟨_, hlong⟩ := exists_log loadSettings_longKey
  refine ⟨⟨{ indent := 2 }, ?_, rfl⟩, ?_, ?_, ?_, ?_⟩
  · exact (failures_of_loadSettings true "superast.yaml"
      (.ok (oneSetting (.text "indent") (.integer 2)))).1 _ rfl
  · exact ((failures_of_loadSettings true "superast.yaml"
      (.ok (oneSetting (.text "indent") (.bool true)))).2.2.2.2.2.2 _ _ _ _ _
        readArguments_withSettings rfl rfl (hfile _) rfl).1 rfl
  · exact ((failures_of_loadSettings true "superast.yaml" _).2.2.2.2.2.2 _ _ _ _ _
      readArguments_withSettings rfl rfl (hfile _) hunclosed).2 rfl
  · exact ((failures_of_loadSettings true "superast.yaml" _).2.2.2.2.2.2 _ _ _ _ _
      readArguments_withSettings rfl rfl (hfile _) hlong).2 rfl
  · exact ((failures_of_loadSettings true "superast.yaml" (.ok noMonth)).2.2.2.2.2.2 _ _ _ _ _
      readArguments_withSettings rfl rfl (hfile _) rfl).2 rfl

/-- How the run with a settings file ends that fails. -/
theorem ending_withSettings {file : SettingsFile} {e : SettingsError}
    (h : (loadSettings true "superast.yaml" (.ok file)).1 = .error e) :
    (run (withSettings file) argvWithSettings).ending =
      (endingWithoutSettings "superast.yaml" e).1 := by
  rw [← settingsFile_withSettings file] at h
  obtain ⟨_, hload⟩ := exists_log h
  rw [run, readArguments_withSettings]
  exact congrArg Report.ending (lower_eq_of_settingsError rfl hload)

/-- Settings files end a run without a status: the flags leave a quote open, a key cannot be shown,
or the reader fails. -/
theorem exists_unreported_settings :
    ((loadSettings true "superast.yaml" (.ok unclosedFlags)).1 = .error (.flagWords .openQuote) ∧
      SettingsError.isReported (.flagWords .openQuote) = false ∧
      (run (withSettings unclosedFlags) argvWithSettings).ending = .words .openQuote) ∧
    ((loadSettings true "superast.yaml" (.ok longKey)).1 = .error .keyDigits ∧
      SettingsError.isReported .keyDigits = false ∧
      (run (withSettings longKey) argvWithSettings).ending = .keyDigits) ∧
    (loadSettings true "superast.yaml" (.ok noMonth)).1 =
        .error (.reader (.noValue "ValueError" "month must be in 1..12")) ∧
      SettingsError.isReported (.reader (.noValue "ValueError" "month must be in 1..12")) = false ∧
      (run (withSettings noMonth) argvWithSettings).ending =
        .reader (.noValue "ValueError" "month must be in 1..12") :=
  ⟨⟨loadSettings_unclosedFlags, rfl, ending_withSettings loadSettings_unclosedFlags⟩,
    ⟨loadSettings_longKey, rfl, ending_withSettings loadSettings_longKey⟩,
    loadSettings_noMonth, rfl, ending_withSettings loadSettings_noMonth⟩

end CommandLine

end TeachingTree

/-
Reading a settings file.

The entries of the file are read in order.  An entry whose key is no setting is passed over with a
line in the log; an entry whose value does not suit its setting stops the reading, and so does a
key that is no setting and cannot be shown in the log.

The value of a file is made by a reader that is no part of this library.  It may find an error in
the text, or it may fail in a way of its own, at bytes that are no text or at a number or a date
that does not exist.

Main definitions:

* `ReaderFailure`, `SettingsFile` — what the reader makes of a settings file;
* `SettingsError` — why it gives no settings, and `SettingsError.message`;
* `Setting` — the four settings, and `Setting.update` — what a value makes of one;
* `readEntries` — the settings of a list of entries and the keys that were passed over;
* `loadSettings` — the settings of a file and the messages logged on the way.
-/

import TeachingTree.FileFault
import TeachingTree.Settings.Basic
import TeachingTree.Settings.Value

set_option relaxedAutoImplicit false
set_option autoImplicit false

namespace TeachingTree

/-- How the reader of settings files fails, other than at an error in the text. -/
inductive ReaderFailure where
  /-- The bytes of the file are no text. -/
  | noText (reason : String)
  /-- A part of the text has no value, although it is written as one: it is a date that does not
  exist or an integer with too many digits, for instance.  What the failure is called comes first.
  -/
  | noValue (kind reason : String)
  deriving DecidableEq, Repr

/-- The text of the failure. -/
def ReaderFailure.message : ReaderFailure → String
  | .noText reason => reason
  | .noValue _ reason => reason

/-- What a settings file holds. -/
inductive SettingsFile where
  /-- A text that holds no value, with the reason. -/
  | malformed (reason : String)
  /-- What makes the reader fail. -/
  | failing (failure : ReaderFailure)
  /-- A value. -/
  | holding (value : SettingValue)
  deriving Inhabited

/-- Why there are no settings. -/
inductive SettingsError where
  /-- The file cannot be opened. -/
  | unreadable (fault : FileFault)
  /-- The text of the file holds no value. -/
  | malformed (reason : String)
  /-- The reader fails at the file. -/
  | reader (failure : ReaderFailure)
  /-- The value of the file is no mapping. -/
  | notMapping
  /-- The flags are neither a text nor a list of texts. -/
  | flags
  /-- The flags are a text without words. -/
  | flagWords (e : ShellError)
  /-- The standard is no text or is empty. -/
  | standard
  /-- The indentation is no integer or is negative. -/
  | indent
  /-- The choice of declarations is no truth value. -/
  | mainFileOnly
  /-- A key that is no setting is an integer with too many digits. -/
  | keyDigits
  deriving DecidableEq, Repr

/-- The text of the error for a file of the given name. -/
def SettingsError.message (name : String) : SettingsError → String
  | .unreadable (.missing _) => "Config file not found: " ++ name
  | .unreadable .nullByte => FileFault.nullByte.message
  | .unreadable fault => "Could not read config file " ++ name ++ ": " ++ fault.message
  | .malformed reason => "Invalid YAML in config file " ++ name ++ ": " ++ reason
  | .reader failure => failure.message
  | .notMapping => "Config file " ++ name ++ " must contain a mapping at the top level."
  | .flags => name ++ ": 'clang_args' must be a list of strings or a string."
  | .flagWords e => e.message
  | .standard => name ++ ": 'std' must be a non-empty string."
  | .indent => name ++ ": 'indent' must be a non-negative integer."
  | .mainFileOnly => name ++ ": 'main_file_only' must be true or false."
  | .keyDigits => digitsMessage

/-! ### Settings -/

/-- The settings that a file may hold. -/
inductive Setting where
  /-- Flags for the parser. -/
  | flags
  /-- The standard of the language. -/
  | standard
  /-- The indentation of documents. -/
  | indent
  /-- Whether declarations of other files are left out. -/
  | mainFileOnly
  deriving DecidableEq, Repr

namespace Setting

/-- The setting of a key. -/
def ofKey? : SettingKey → Option Setting
  | .text "clang_args" => some .flags
  | .text "std" => some .standard
  | .text "indent" => some .indent
  | .text "main_file_only" => some .mainFileOnly
  | _ => none

/-- The flags that a value gives. -/
def readFlags : SettingValue → Except SettingsError (List String)
  | .text text => (shellWords text).mapError .flagWords
  | .list items => match items.mapM SettingValue.text? with
    | some texts => .ok texts
    | none => .error .flags
  | _ => .error .flags

/-- The settings after a value is given to one of them. -/
def update (settings : Settings) (value : SettingValue) :
    Setting → Except SettingsError Settings
  | .flags => (readFlags value).map fun flags => { settings with flags }
  | .standard => match value with
    | .text name =>
      if name.isEmpty then .error .standard else .ok { settings with standard := name }
    | _ => .error .standard
  | .indent => match value with
    | .integer n => if n < 0 then .error .indent else .ok { settings with indent := n }
    | _ => .error .indent
  | .mainFileOnly => match value with
    | .bool b => .ok { settings with mainFileOnly := b }
    | _ => .error .mainFileOnly

end Setting

/-! ### Files -/

/-- Reads entries in order: the settings after the last one or the first error, and the keys that
were passed over until then, as they are shown. -/
def readEntries (settings : Settings) :
    List (SettingKey × SettingValue) → Except SettingsError Settings × List String
  | [] => (.ok settings, [])
  | (key, value) :: rest =>
    match Setting.ofKey? key with
    | none =>
      match key.shown? with
      | none => (.error .keyDigits, [])
      | some shown =>
        let (outcome, ignored) := readEntries settings rest
        (outcome, shown :: ignored)
    | some setting =>
      match setting.update settings value with
      | .ok settings => readEntries settings rest
      | .error e => (.error e, [])

/-- The message for a key that is passed over. -/
def ignoredKeyMessage (name shown : String) : String :=
  "Ignoring unknown config key '" ++ shown ++ "' in " ++ name ++ "."

/-- The settings of the value of a file and the messages logged on the way. -/
def readSettings (name : String) : SettingValue → Except SettingsError Settings × List String
  | .null => (.ok {}, [])
  | .mapping entries =>
    let (outcome, ignored) := readEntries {} (mappingOf entries)
    (outcome, ignored.map (ignoredKeyMessage name))
  | _ => (.error .notMapping, [])

/-- The settings of a file and the messages logged on the way.  Without a reader for settings files
the file is not opened. -/
def loadSettings (readerAvailable : Bool) (name : String)
    (file : Except FileFault SettingsFile) : Except SettingsError Settings × List String :=
  if !readerAvailable then
    (.ok {}, ["PyYAML is not installed; ignoring config file " ++ name ++ "."])
  else match file with
    | .error fault => (.error (.unreadable fault), [])
    | .ok (.malformed reason) => (.error (.malformed reason), [])
    | .ok (.failing failure) => (.error (.reader failure), [])
    | .ok (.holding value) => readSettings name value

end TeachingTree

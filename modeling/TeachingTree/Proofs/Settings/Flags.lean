/-
**The ways of giving flags.**

Flags for the parser are given in a settings file, as a list or as a line of words, or as a line of
words in the environment.  A line holds the flags of a list if it holds them in quotes, so the list
and the line make the same settings, and the line in the environment puts the same flags behind
those of the settings.

Settings are made of whole mappings, in which the flags are one entry among others.  What an entry
does to the settings depends on the setting that its key names, and the entries of a mapping are
told apart by their keys.  So two mappings are read alike if their entries are, one by one.

Main definitions:

* `ReadAlike` — entries of one key whose values make the same of the setting of the key.

Main results:

* `mappingOf_alike`, `readEntries_alike` — entries that are read alike make mappings that are, and
  these make the same settings;
* `flags_of_quotedLine` — **the ways of giving flags agree**.
-/

import Mathlib.Data.List.Forall2
import TeachingTree.Proofs.Settings.Entries
import TeachingTree.Proofs.Text.ShellWords

set_option relaxedAutoImplicit false
set_option autoImplicit false

namespace TeachingTree

open ShellWords

/-! ### Entries that are read alike -/

/-- Entries of one key whose values make the same of the setting of the key, if it names one. -/
structure ReadAlike (entry other : SettingKey × SettingValue) : Prop where
  key_eq : entry.1 = other.1
  update_eq : ∀ setting : Setting, entry.1 = setting.key → ∀ settings,
    setting.update settings entry.2 = setting.update settings other.2

theorem ReadAlike.refl (entry : SettingKey × SettingValue) : ReadAlike entry entry :=
  ⟨rfl, fun _ _ _ => rfl⟩

/-- A key that is one with a text is that text. -/
theorem SettingKey.eq_of_same_text {name : String} {key : SettingKey}
    (h : (text name).same key = true) : key = .text name := by
  have hnone : (text name).amount? = none := rfl
  rw [same, hnone] at h
  cases hamount : key.amount? with
  | none =>
      rw [hamount, Bool.and_eq_true, decide_eq_true_eq] at h
      exact h.1.symm
  | some amount => simp [hamount] at h

theorem Setting.eq_key_of_same {setting : Setting} {key : SettingKey}
    (h : setting.key.same key = true) : key = setting.key := by
  cases setting <;> exact SettingKey.eq_of_same_text h

section Alike

variable {entries others : List (SettingKey × SettingValue)}

/-- Entries that are read alike make the same settings, and the same keys are passed over. -/
theorem readEntries_alike (h : List.Forall₂ ReadAlike entries others) (settings : Settings) :
    readEntries settings entries = readEntries settings others := by
  induction h generalizing settings with
  | nil => rfl
  | @cons entry other _ _ halike _ ih =>
      obtain ⟨key, value⟩ := entry
      obtain ⟨_, value'⟩ := other
      obtain ⟨rfl, hupdate⟩ := halike
      rw [readEntries, readEntries]
      cases hkey : Setting.ofKey? key with
      | none => cases key.shown? <;> simp only [ih]
      | some setting =>
          simp only [hupdate setting (Setting.ofKey?_eq_some_iff.1 hkey)]
          cases setting.update settings value' with
          | ok after => exact ih after
          | error e => rfl

/-- An entry takes the place of one with its key in both mappings, or comes last in both. -/
theorem putEntry_alike {key : SettingKey} {value value' : SettingValue}
    (hentry : ReadAlike (key, value) (key, value')) (h : List.Forall₂ ReadAlike entries others) :
    List.Forall₂ ReadAlike (putEntry key value entries) (putEntry key value' others) := by
  induction h with
  | nil => exact .cons hentry .nil
  | @cons first second _ _ halike hrest ih =>
      obtain ⟨old, before⟩ := first
      obtain ⟨_, before'⟩ := second
      obtain rfl := halike.key_eq
      rw [putEntry, putEntry]
      split
      · rename_i hsame
        refine .cons ⟨rfl, ?_⟩ hrest
        rintro setting rfl
        exact hentry.update_eq setting (Setting.eq_key_of_same hsame)
      · exact .cons halike ih

/-- Entries that are read alike make mappings that are. -/
theorem mappingOf_alike (h : List.Forall₂ ReadAlike entries others) :
    List.Forall₂ ReadAlike (mappingOf entries) (mappingOf others) := by
  refine List.rel_foldl ?_ .nil h
  rintro mapping mapping' hmapping ⟨key, value⟩ ⟨_, value'⟩ hentry
  obtain rfl := hentry.key_eq
  exact putEntry_alike hentry hmapping

end Alike

/-! ### Flags -/

theorem readFlags_list (flags : List String) :
    Setting.readFlags (.list (flags.map .text)) = .ok flags := by
  have hread : (flags.map SettingValue.text).mapM SettingValue.text? = some flags := by
    induction flags with
    | nil => rfl
    | cons flag flags ih => simp [List.mapM_cons, SettingValue.text?, ih]
  rw [Setting.readFlags, hread]

theorem readFlags_line {flags : List String} {line : String}
    (h : QuotedLine (flags.map String.toList) line.toList) :
    Setting.readFlags (.text line) = .ok flags := by
  rw [Setting.readFlags, shellWords_of_quotedLine h]
  rfl

/-- A list of flags and a line on which they are quoted are read alike. -/
theorem readAlike_flags {flags : List String} {line : String}
    (h : QuotedLine (flags.map String.toList) line.toList) :
    ReadAlike (.text "clang_args", .list (flags.map .text)) (.text "clang_args", .text line) := by
  refine ⟨rfl, ?_⟩
  intro setting hkey settings
  cases setting with
  | flags => rw [Setting.update, Setting.update, readFlags_list, readFlags_line h]
  | standard => simp [Setting.key] at hkey
  | indent => simp [Setting.key] at hkey
  | mainFileOnly => simp [Setting.key] at hkey

/-- The flags of the environment are the words of its line. -/
theorem environmentFlags_line {flags : List String} {line : String}
    (h : QuotedLine (flags.map String.toList) line.toList) :
    Settings.environmentFlags (some line) = .ok flags := by
  have hwords := shellWords_of_quotedLine h
  rw [Settings.environmentFlags]
  split
  · rename_i hempty
    -- the empty line has no words, so there are no flags
    rw [String.isEmpty_iff.1 hempty] at hwords
    exact hwords
  · exact hwords

/-- **The ways of giving flags agree.**  A list of flags and a line on which they are quoted are the
same in a settings file, whatever else the file holds, and by themselves they set these flags and
nothing more.  The line in the environment puts the flags behind those of the settings. -/
theorem flags_of_quotedLine {flags : List String} {line : String}
    (h : QuotedLine (flags.map String.toList) line.toList) :
    (∀ available name before after,
      loadSettings available name (.ok (.holding (.mapping
          (before ++ (.text "clang_args", .list (flags.map .text)) :: after)))) =
        loadSettings available name (.ok (.holding (.mapping
          (before ++ (.text "clang_args", .text line) :: after))))) ∧
    (∀ name, loadSettings true name (.ok (.holding (.mapping
      [(.text "clang_args", .text line)]))) = (.ok { flags }, [])) ∧
    ∀ settings : Settings, settings.parserFlags (some line) =
      .ok (["-x", "c++", "-std=" ++ settings.standard] ++ settings.flags ++ flags) := by
  refine ⟨?anywhere, ?alone, ?environment⟩
  case anywhere =>
    intro available name before after
    have halike : List.Forall₂ ReadAlike
        (before ++ (.text "clang_args", .list (flags.map .text)) :: after)
        (before ++ (.text "clang_args", .text line) :: after) :=
      List.rel_append (List.forall₂_same.2 fun entry _ => .refl entry)
        (.cons (readAlike_flags h) (List.forall₂_same.2 fun entry _ => .refl entry))
    simp only [loadSettings, readSettings, readEntries_alike (mappingOf_alike halike)]
  case alone =>
    intro name
    have hkey : Setting.ofKey? (.text "clang_args") = some .flags := rfl
    have hupdate : Setting.update {} (.text line) .flags = .ok { flags } := by
      rw [Setting.update, readFlags_line h]
      rfl
    have hread : readEntries {} [(.text "clang_args", .text line)] = (.ok { flags }, []) := by
      simp only [readEntries, hkey, hupdate]
    simp only [loadSettings, readSettings, mappingOf, List.foldl, putEntry, hread]
    rfl
  case environment =>
    intro settings
    rw [Settings.parserFlags, environmentFlags_line h]
    rfl

/-- Three flags on a line: one with a single quote, one without characters, and one with a space and
a backslash. -/
theorem quotedLine_threeFlags :
    QuotedLine (["-DNAME=it's", "", "a b\\c"].map String.toList)
      "'-DNAME=it'\"'\"'s' ''\t'a b\\c'".toList := by
  have hspace : IsGap [' '] := ⟨by decide, by simp⟩
  have htab : IsGap ['\t'] := ⟨by decide, by simp⟩
  have hline : "'-DNAME=it'\"'\"'s' ''\t'a b\\c'".toList =
      quoted "-DNAME=it's".toList ++ ([' '] ++ (quoted "".toList ++
        (['\t'] ++ quoted "a b\\c".toList))) := by decide
  rw [hline]
  exact .cons _ hspace (.cons _ htab (.single _))

/-- The three flags are read from the line in a file and in the environment. -/
theorem parserFlags_threeFlags :
    QuotedLine (["-DNAME=it's", "", "a b\\c"].map String.toList)
        "'-DNAME=it'\"'\"'s' ''\t'a b\\c'".toList ∧
      loadSettings true "superast.yaml" (.ok (.holding (.mapping
        [(.text "clang_args", .text "'-DNAME=it'\"'\"'s' ''\t'a b\\c'")]))) =
          (.ok { flags := ["-DNAME=it's", "", "a b\\c"] }, []) ∧
      Settings.parserFlags { flags := ["-Wall"] } (some "'-DNAME=it'\"'\"'s' ''\t'a b\\c'") =
        .ok ["-x", "c++", "-std=c++11", "-Wall", "-DNAME=it's", "", "a b\\c"] := by
  obtain ⟨-, hfile, henvironment⟩ := flags_of_quotedLine quotedLine_threeFlags
  exact ⟨quotedLine_threeFlags, hfile "superast.yaml", henvironment { flags := ["-Wall"] }⟩

end TeachingTree

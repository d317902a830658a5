/-
**What the entries of a settings file make of the settings.**

The entries are read in order, each of them changes one field of the settings or is passed over, and
the first value that does not suit its field stops the reading.  So does a key that is no setting,
if it is an integer with too many digits to be shown.  Whether an entry is refused does not depend
on the settings that were read before.  So the reading stops exactly if some entry is refused, and
which entry comes first decides about nothing but the reason that is given.

In a mapping every key stands once.  Then no entry overwrites what another one has set, and the
settings are the ones that hold without a file, with each field replaced by the value of its own key
if the mapping has this key.  Looking up a key does not depend on the order of the entries, and
neither does whether some key cannot be shown, so the settings do not either.

Main definitions:

* `Setting.key`, `Setting.refusal?` — the key of a field, and why a value does not suit the field;
* `refusalOf?`, `isPassedOver` — why an entry is refused, if it is, and whether it is passed over;
* `Settings.IsSound` — whether the standard has a name and the indentation is a number of spaces;
* `HasDistinctKeys`, `keysAreShown` — whether every key stands once, and whether every key can be
  shown;
* `Settings.override?` — settings overridden field by field;
* `settingsOfMapping` — the settings of a file that holds a mapping, with a reader or without.

Main results:

* `readEntries_eq_error_iff` — **the first entry that is refused gives the reason**;
* `isSound_of_readEntries` — entries make sound settings of sound ones;
* `readEntries_eq_override?` — **entries with different keys override the settings field by field**;
* `settings_of_mapping` — **the order of entries does not matter**, and neither do keys that are
  passed over;
* `exists_settings_not_overridden` — without a reader, and with a key that cannot be shown, a
  mapping overrides nothing.
-/

import Mathlib.Data.List.Induction
import TeachingTree.Settings.Reading

set_option relaxedAutoImplicit false
set_option autoImplicit false

namespace TeachingTree

/-! ### Fields and their values -/

namespace Setting

/-- The key of a field. -/
def key : Setting → SettingKey
  | flags => .text "clang_args"
  | standard => .text "std"
  | indent => .text "indent"
  | mainFileOnly => .text "main_file_only"

theorem ofKey?_eq_some_iff {key : SettingKey} {setting : Setting} :
    ofKey? key = some setting ↔ key = setting.key := by
  constructor
  · fun_cases ofKey? key with
    | case5 => rintro ⟨⟩
    | _ => rintro ⟨⟩; rfl
  · rintro rfl
    cases setting <;> rfl

/-- The standard that a value gives. -/
def readStandard : SettingValue → Except SettingsError String
  | .text name => if name = "" then .error .standard else .ok name
  | _ => .error .standard

/-- The indentation that a value gives. -/
def readIndent : SettingValue → Except SettingsError Int
  | .integer n => if 0 ≤ n then .ok n else .error .indent
  | _ => .error .indent

/-- The choice of declarations that a value gives. -/
def readMainFileOnly : SettingValue → Except SettingsError Bool
  | .bool b => .ok b
  | _ => .error .mainFileOnly

theorem ne_of_readStandard {value : SettingValue} {name : String}
    (h : readStandard value = .ok name) : name ≠ "" := by
  revert h
  fun_cases readStandard value with
  | case2 text hne =>
      rintro ⟨⟩
      exact hne
  | _ => rintro ⟨⟩

theorem nonneg_of_readIndent {value : SettingValue} {n : Int} (h : readIndent value = .ok n) :
    0 ≤ n := by
  revert h
  fun_cases readIndent value with
  | case1 m hnonneg =>
      rintro ⟨⟩
      exact hnonneg
  | _ => rintro ⟨⟩

/-- A value replaces one field. -/
theorem update_eq (settings : Settings) (value : SettingValue) (setting : Setting) :
    setting.update settings value = match setting with
      | flags => (readFlags value).map fun flags => { settings with flags }
      | standard => (readStandard value).map fun standard => { settings with standard }
      | indent => (readIndent value).map fun indent => { settings with indent }
      | mainFileOnly =>
        (readMainFileOnly value).map fun mainFileOnly => { settings with mainFileOnly } := by
  cases setting with
  | flags => rfl
  | standard =>
      cases value with
      | text name => by_cases hempty : name = "" <;> simp [update, readStandard, hempty, Except.map]
      | _ => rfl
  | indent =>
      cases value with
      | integer n =>
          by_cases hnegative : n < 0
          · simp [update, readIndent, hnegative, Int.not_le.2 hnegative, Except.map]
          · simp [update, readIndent, hnegative, Int.not_lt.1 hnegative, Except.map]
      | _ => rfl
  | mainFileOnly => cases value <;> rfl

/-- Why a value does not suit a field, if it does not. -/
def refusal? (value : SettingValue) (setting : Setting) : Option SettingsError :=
  match setting.update {} value with
  | .ok _ => none
  | .error e => some e

/-- What a value makes of the settings fails only for reasons of the value. -/
theorem update_cases (settings : Settings) (value : SettingValue) (setting : Setting) :
    (∃ after, setting.update settings value = .ok after ∧ setting.refusal? value = none) ∨
      ∃ e, setting.update settings value = .error e ∧ setting.refusal? value = some e := by
  simp only [refusal?, update_eq]
  cases setting with
  | flags => cases readFlags value <;> simp [Except.map]
  | standard => cases readStandard value <;> simp [Except.map]
  | indent => cases readIndent value <;> simp [Except.map]
  | mainFileOnly => cases readMainFileOnly value <;> simp [Except.map]

end Setting

/-! ### One entry after the other -/

/-- What one entry makes of the settings: an entry with another key is passed over, if the key can
be shown. -/
def applyEntry (settings : Settings) (entry : SettingKey × SettingValue) :
    Except SettingsError Settings :=
  match Setting.ofKey? entry.1 with
  | none => if entry.1.shown?.isSome then .ok settings else .error .keyDigits
  | some setting => setting.update settings entry.2

/-- Why an entry is refused, if it is. -/
def refusalOf? (entry : SettingKey × SettingValue) : Option SettingsError :=
  match Setting.ofKey? entry.1 with
  | none => if entry.1.shown?.isSome then none else some .keyDigits
  | some setting => setting.refusal? entry.2

/-- Whether an entry is passed over: its key is no setting and can be shown. -/
def isPassedOver (entry : SettingKey × SettingValue) : Bool :=
  (Setting.ofKey? entry.1).isNone && entry.1.shown?.isSome

/-- An entry is refused for reasons of its own, whatever the settings are. -/
theorem applyEntry_cases (settings : Settings) (entry : SettingKey × SettingValue) :
    (∃ after, applyEntry settings entry = .ok after ∧ refusalOf? entry = none) ∨
      ∃ e, applyEntry settings entry = .error e ∧ refusalOf? entry = some e := by
  rw [applyEntry, refusalOf?]
  cases Setting.ofKey? entry.1 with
  | none => cases entry.1.shown?.isSome <;> simp
  | some setting => exact setting.update_cases settings entry.2

theorem applyEntry_of_isPassedOver (settings : Settings) {entry : SettingKey × SettingValue}
    (h : isPassedOver entry = true) : applyEntry settings entry = .ok settings := by
  rw [isPassedOver, Bool.and_eq_true, Option.isNone_iff_eq_none] at h
  rw [applyEntry, h.1]
  exact if_pos h.2

theorem readEntries_cons (settings : Settings) (entry : SettingKey × SettingValue)
    (rest : List (SettingKey × SettingValue)) :
    (readEntries settings (entry :: rest)).1 = match applyEntry settings entry with
      | .ok after => (readEntries after rest).1
      | .error e => .error e := by
  rw [readEntries, applyEntry]
  cases Setting.ofKey? entry.1 with
  | none => cases entry.1.shown? <;> rfl
  | some setting => cases hupdate : setting.update settings entry.2 <;> simp only [hupdate]

/-- **The first entry that is refused gives the reason.** -/
theorem readEntries_eq_error_iff {settings : Settings} {e : SettingsError}
    {entries : List (SettingKey × SettingValue)} :
    (readEntries settings entries).1 = .error e ↔ entries.findSome? refusalOf? = some e := by
  induction entries generalizing settings with
  | nil => simp [readEntries]
  | cons entry rest ih =>
      rw [readEntries_cons, List.findSome?_cons]
      rcases applyEntry_cases settings entry with ⟨after, happly, hnone⟩ | ⟨fault, happly, hsome⟩
      · rw [happly, hnone]
        exact ih
      · rw [happly, hsome]
        simp

/-- Settings whose standard has a name and whose indentation is a number of spaces. -/
structure Settings.IsSound (settings : Settings) : Prop where
  standard_ne : settings.standard ≠ ""
  indent_nonneg : 0 ≤ settings.indent

theorem isSound_default : Settings.IsSound {} := ⟨by decide, by decide⟩

/-- A field is changed only to a value that suits it. -/
theorem isSound_of_update {settings after : Settings} {value : SettingValue} {setting : Setting}
    (h : setting.update settings value = .ok after) (hsound : settings.IsSound) :
    after.IsSound := by
  rw [Setting.update_eq] at h
  cases setting with
  | flags =>
      cases hread : Setting.readFlags value <;> rw [hread] at h <;> cases h
      exact ⟨hsound.standard_ne, hsound.indent_nonneg⟩
  | standard =>
      cases hread : Setting.readStandard value <;> rw [hread] at h <;> cases h
      exact ⟨Setting.ne_of_readStandard hread, hsound.indent_nonneg⟩
  | indent =>
      cases hread : Setting.readIndent value <;> rw [hread] at h <;> cases h
      exact ⟨hsound.standard_ne, Setting.nonneg_of_readIndent hread⟩
  | mainFileOnly =>
      cases hread : Setting.readMainFileOnly value <;> rw [hread] at h <;> cases h
      exact ⟨hsound.standard_ne, hsound.indent_nonneg⟩

/-- Entries make sound settings of sound ones. -/
theorem isSound_of_readEntries {settings after : Settings}
    {entries : List (SettingKey × SettingValue)}
    (h : (readEntries settings entries).1 = .ok after) (hsound : settings.IsSound) :
    after.IsSound := by
  induction entries generalizing settings with
  | nil =>
      cases h
      exact hsound
  | cons entry rest ih =>
      rw [readEntries_cons] at h
      cases happly : applyEntry settings entry with
      | error e => simp [happly] at h
      | ok middle =>
          rw [happly] at h
          refine ih h ?_
          rw [applyEntry] at happly
          split at happly
          · split at happly <;> cases happly
            exact hsound
          · exact isSound_of_update happly hsound

/-! ### Different keys -/

/-- Whether every key stands once. -/
def HasDistinctKeys (entries : List (SettingKey × SettingValue)) : Prop :=
  entries.Pairwise fun first second => first.1.same second.1 = false

theorem SettingKey.same_comm (a b : SettingKey) : a.same b = b.same a := by
  rw [same, same]
  cases a.amount? <;> cases b.amount? <;> grind

theorem Setting.same_key (setting : Setting) : setting.key.same setting.key = true := by
  cases setting <;> simp [key]

section Keys

variable {entries permuted : List (SettingKey × SettingValue)}

theorem HasDistinctKeys.perm (h : HasDistinctKeys entries) (hperm : entries.Perm permuted) :
    HasDistinctKeys permuted := by
  refine (hperm.pairwise_iff ?_).1 h
  intro first second hdifferent
  rw [SettingKey.same_comm, hdifferent]

/-- The value of a field does not depend on the order of the entries. -/
theorem lookup_perm (h : HasDistinctKeys entries) (hperm : entries.Perm permuted)
    (setting : Setting) : entries.lookup setting.key = permuted.lookup setting.key := by
  induction hperm with
  | nil => rfl
  | cons entry _ ih =>
      rw [List.lookup_cons, List.lookup_cons, ih (List.pairwise_cons.1 h).2]
  | swap first second rest =>
      rw [List.lookup_cons, List.lookup_cons, List.lookup_cons, List.lookup_cons]
      cases hfirst : setting.key == first.1 with
      | false => rfl
      | true =>
          cases hsecond : setting.key == second.1 with
          | false => rfl
          | true =>
              -- both entries have the key, so it stands twice
              have hdifferent := (List.pairwise_cons.1 h).1 first List.mem_cons_self
              rw [← beq_iff_eq.1 hfirst, ← beq_iff_eq.1 hsecond, setting.same_key] at hdifferent
              cases hdifferent
  | trans hfirst _ ihfirst ihsecond => rw [ihfirst h, ihsecond (h.perm hfirst)]

/-- A key that stands in front does not stand among the others. -/
theorem lookup_rest {entry : SettingKey × SettingValue} (h : HasDistinctKeys (entry :: entries))
    {setting : Setting} (hkey : entry.1 = setting.key) : entries.lookup setting.key = none := by
  rw [List.lookup_eq_none_iff]
  intro other hother
  have hdifferent := (List.pairwise_cons.1 h).1 other hother
  rw [bne_iff_ne]
  intro heq
  rw [hkey, ← heq, setting.same_key] at hdifferent
  cases hdifferent

theorem putEntry_of_new {key : SettingKey} (value : SettingValue)
    (h : ∀ entry ∈ entries, entry.1.same key = false) :
    putEntry key value entries = entries ++ [(key, value)] := by
  induction entries with
  | nil => rfl
  | cons entry rest ih =>
      obtain ⟨other, old⟩ := entry
      have hother := h (other, old) List.mem_cons_self
      rw [putEntry, if_neg (by simp [hother]), ih fun e he => h e (List.mem_cons_of_mem _ he)]
      rfl

/-- Entries with different keys are the mapping that they make. -/
theorem mappingOf_eq (h : HasDistinctKeys entries) : mappingOf entries = entries := by
  induction entries using List.reverseRecOn with
  | nil => rfl
  | append_singleton front last ih =>
      obtain ⟨hfront, _, hlast⟩ := List.pairwise_append.1 h
      rw [mappingOf, List.foldl_append]
      change putEntry last.1 last.2 (mappingOf front) = _
      rw [ih hfront]
      exact putEntry_of_new last.2 fun entry hentry => hlast entry hentry last List.mem_cons_self

end Keys

/-! ### Field by field -/

/-- A field with the value that is given for it, or as it is without one. -/
def overrideField? {α : Type} (read : SettingValue → Except SettingsError α) (field : α) :
    Option SettingValue → Option α
  | none => some field
  | some value => (read value).toOption

/-- Settings overridden field by field with the values that are given for the fields. -/
def Settings.overrideFields? (settings : Settings) (values : Setting → Option SettingValue) :
    Option Settings := do
  let flags ← overrideField? Setting.readFlags settings.flags (values .flags)
  let standard ← overrideField? Setting.readStandard settings.standard (values .standard)
  let indent ← overrideField? Setting.readIndent settings.indent (values .indent)
  let mainFileOnly ←
    overrideField? Setting.readMainFileOnly settings.mainFileOnly (values .mainFileOnly)
  return { flags, standard, indent, mainFileOnly }

/-- Settings overridden with the values that entries have for the keys of the fields. -/
def Settings.override? (settings : Settings) (entries : List (SettingKey × SettingValue)) :
    Option Settings :=
  settings.overrideFields? fun setting => entries.lookup setting.key

/-- A value for one more field may as well be given first. -/
theorem overrideFields?_of_update {settings : Settings} {value : SettingValue} {setting : Setting}
    {values others : Setting → Option SettingValue} (hvalue : values setting = some value)
    (hnone : others setting = none) (hothers : ∀ other ≠ setting, values other = others other) :
    settings.overrideFields? values =
      (setting.update settings value).toOption.bind fun after =>
        after.overrideFields? others := by
  rw [Setting.update_eq]
  -- a value that is refused leaves nothing, whatever the fields before it make of theirs
  cases setting with
  | flags =>
      simp only [Settings.overrideFields?, hvalue, hnone, hothers .standard (by decide),
        hothers .indent (by decide), hothers .mainFileOnly (by decide), overrideField?]
      cases Setting.readFlags value with
      | ok flags => rfl
      | error e => rfl
  | standard =>
      simp only [Settings.overrideFields?, hvalue, hnone, hothers .flags (by decide),
        hothers .indent (by decide), hothers .mainFileOnly (by decide), overrideField?]
      cases Setting.readStandard value with
      | ok standard => rfl
      | error e => simp [Except.toOption, Except.map]
  | indent =>
      simp only [Settings.overrideFields?, hvalue, hnone, hothers .flags (by decide),
        hothers .standard (by decide), hothers .mainFileOnly (by decide), overrideField?]
      cases Setting.readIndent value with
      | ok indent => rfl
      | error e => simp [Except.toOption, Except.map]
  | mainFileOnly =>
      simp only [Settings.overrideFields?, hvalue, hnone, hothers .flags (by decide),
        hothers .standard (by decide), hothers .indent (by decide), overrideField?]
      cases Setting.readMainFileOnly value with
      | ok mainFileOnly => rfl
      | error e => simp [Except.toOption, Except.map]

/-- Whether all keys can be shown. -/
def keysAreShown (entries : List (SettingKey × SettingValue)) : Bool :=
  entries.all fun entry => entry.1.shown?.isSome

/-- The entry in front is taken first, if its key can be shown. -/
theorem override?_cons (settings : Settings) {entry : SettingKey × SettingValue}
    {rest : List (SettingKey × SettingValue)} (h : HasDistinctKeys (entry :: rest))
    (hshown : entry.1.shown?.isSome = true) :
    settings.override? (entry :: rest) =
      (applyEntry settings entry).toOption.bind fun after => after.override? rest := by
  rw [applyEntry]
  cases hkey : Setting.ofKey? entry.1 with
  | none =>
      rw [if_pos hshown]
      have hlookup : ∀ setting : Setting,
          (entry :: rest).lookup setting.key = rest.lookup setting.key := by
        intro setting
        have hne : setting.key ≠ entry.1 := by
          intro heq
          rw [Setting.ofKey?_eq_some_iff.2 heq.symm] at hkey
          cases hkey
        rw [List.lookup_cons, beq_false_of_ne hne]
      simp only [Settings.override?, hlookup]
      rfl
  | some setting =>
      have heq : entry.1 = setting.key := Setting.ofKey?_eq_some_iff.1 hkey
      refine overrideFields?_of_update ?_ (lookup_rest h heq) ?_
      · rw [List.lookup_cons, heq, beq_self_eq_true]
      · intro other hother
        have hne : other.key ≠ entry.1 := by
          intro hsame
          rw [Setting.ofKey?_eq_some_iff.2 hsame.symm] at hkey
          exact hother (Option.some.inj hkey)
        rw [List.lookup_cons, beq_false_of_ne hne]

/-- A key cannot be shown exactly if it is an integer with too many digits. -/
theorem SettingKey.isSome_shown?_eq_false_iff {key : SettingKey} :
    key.shown?.isSome = false ↔ ∃ n, key = .integer n ∧ fitsDigits n = false := by
  cases key with
  | integer n => cases hfits : fitsDigits n <;> simp [shown?, hfits]
  | _ => simp [shown?]

/-- A key of a setting can be shown, so one that cannot is refused. -/
theorem refusalOf?_eq_keyDigits {entry : SettingKey × SettingValue}
    (h : entry.1.shown?.isSome = false) : refusalOf? entry = some .keyDigits := by
  have hnone : Setting.ofKey? entry.1 = none := by
    cases hkey : Setting.ofKey? entry.1 with
    | none => rfl
    | some setting =>
        rw [Setting.ofKey?_eq_some_iff.1 hkey] at h
        cases setting <;> cases h
  rw [refusalOf?, hnone]
  exact if_neg (by simp [h])

/-- **Entries with different keys override the settings field by field**, if all keys can be shown,
and otherwise they are refused. -/
theorem readEntries_eq_override? (settings : Settings)
    {entries : List (SettingKey × SettingValue)} (h : HasDistinctKeys entries) :
    (readEntries settings entries).1.toOption =
      if keysAreShown entries then settings.override? entries else none := by
  induction entries generalizing settings with
  | nil => rfl
  | cons entry rest ih =>
      have hrest := fun settings => ih settings (List.pairwise_cons.1 h).2
      rw [keysAreShown, List.all_cons, ← keysAreShown, readEntries_cons]
      cases hshown : entry.1.shown?.isSome with
      | false =>
          rcases applyEntry_cases settings entry with ⟨_, _, hnone⟩ | ⟨e, happly, _⟩
          · rw [refusalOf?_eq_keyDigits hshown] at hnone
            cases hnone
          · rw [happly]
            rfl
      | true =>
          rw [override?_cons settings h hshown, Bool.true_and]
          cases applyEntry settings entry with
          | error e => simp [Except.toOption]
          | ok after => exact hrest after

/-- Any entries that are passed over may as well be left out. -/
theorem readEntries_filter (settings : Settings) {entries : List (SettingKey × SettingValue)}
    {keeps : SettingKey × SettingValue → Bool}
    (h : ∀ entry ∈ entries, keeps entry = false → isPassedOver entry = true) :
    (readEntries settings (entries.filter keeps)).1 = (readEntries settings entries).1 := by
  induction entries generalizing settings with
  | nil => rfl
  | cons entry rest ih =>
      have hrest := fun settings => ih settings fun other hother =>
        h other (List.mem_cons_of_mem _ hother)
      cases hkeeps : keeps entry with
      | false =>
          have hpassed := h entry List.mem_cons_self hkeeps
          rw [List.filter_cons_of_neg (by simp [hkeeps]), readEntries_cons,
            applyEntry_of_isPassedOver settings hpassed]
          exact hrest settings
      | true =>
          rw [List.filter_cons_of_pos hkeeps, readEntries_cons, readEntries_cons]
          cases applyEntry settings entry with
          | error e => rfl
          | ok after => exact hrest after

/-! ### Mappings -/

/-- The settings of a file that holds a mapping, where a reader for settings files is there or not.
-/
def settingsOfMapping (available : Bool) (name : String)
    (entries : List (SettingKey × SettingValue)) : Except SettingsError Settings :=
  (loadSettings available name (.ok (.holding (.mapping entries)))).1

theorem settingsOfMapping_eq (name : String) {entries : List (SettingKey × SettingValue)}
    (h : HasDistinctKeys entries) :
    settingsOfMapping true name entries = (readEntries {} entries).1 := by
  change (readEntries {} (mappingOf entries)).1 = _
  rw [mappingOf_eq h]

/-- **The settings of a mapping are the ones without a file, overridden field by field**, if there
is a reader for settings files and all keys can be shown; without a reader they are the ones without
a file.  In any case the order of the entries does not matter to them, and any entries that are
passed over may as well be left out. -/
theorem settings_of_mapping (available : Bool) (name : String)
    {entries : List (SettingKey × SettingValue)} (hkeys : HasDistinctKeys entries) :
    (∀ permuted, entries.Perm permuted →
      (settingsOfMapping available name permuted).toOption =
        (settingsOfMapping available name entries).toOption) ∧
    (∀ keeps, (∀ entry ∈ entries, keeps entry = false → isPassedOver entry = true) →
      settingsOfMapping available name (entries.filter keeps) =
        settingsOfMapping available name entries) ∧
    (available = true → keysAreShown entries = true →
      (settingsOfMapping available name entries).toOption = Settings.override? {} entries) ∧
    (available = false → settingsOfMapping available name entries = .ok {}) := by
  cases available with
  | false => exact ⟨fun _ _ => rfl, fun _ _ => rfl, nofun, fun _ => rfl⟩
  | true =>
      refine ⟨?_, ?_, ?_, nofun⟩
      · intro permuted hperm
        have hpermuted := hkeys.perm hperm
        rw [settingsOfMapping_eq name hpermuted, settingsOfMapping_eq name hkeys,
          readEntries_eq_override? _ hpermuted, readEntries_eq_override? _ hkeys, keysAreShown,
          keysAreShown, hperm.all_eq]
        simp only [Settings.override?, lookup_perm hkeys hperm]
      · intro keeps hkeeps
        have hfilter : HasDistinctKeys (entries.filter keeps) := List.Pairwise.filter _ hkeys
        rw [settingsOfMapping_eq name hfilter, settingsOfMapping_eq name hkeys]
        exact readEntries_filter {} hkeeps
      · intro _ hshown
        rw [settingsOfMapping_eq name hkeys, readEntries_eq_override? {} hkeys, if_pos hshown]

/-- An indentation and a standard, with a null key between them, in both orders. -/
theorem settings_of_mapping_three :
    HasDistinctKeys
      [(.text "indent", .integer 2), (.null, .bool true), (.text "std", .text "c++17")] ∧
    (settingsOfMapping true "superast.yaml"
      [(.text "std", .text "c++17"), (.null, .bool true), (.text "indent", .integer 2)]).toOption =
        some { standard := "c++17", indent := 2 } ∧
    settingsOfMapping true "superast.yaml"
        [(.text "indent", .integer 2), (.text "std", .text "c++17")] =
      settingsOfMapping true "superast.yaml"
        [(.text "indent", .integer 2), (.null, .bool true), (.text "std", .text "c++17")] := by
  have hkeys : HasDistinctKeys
      [(.text "indent", .integer 2), (.null, .bool true), (.text "std", .text "c++17")] := by
    simp [HasDistinctKeys, SettingKey.same, SettingKey.amount?]
  obtain ⟨hperm, hfilter, hoverride, -⟩ := settings_of_mapping true "superast.yaml" hkeys
  refine ⟨hkeys, ?_, ?_⟩
  · exact (hperm _ (List.reverse_perm _).symm).trans ((hoverride rfl rfl).trans rfl)
  · exact hfilter (fun entry => (Setting.ofKey? entry.1).isSome) (by simp; decide)

/-- A mapping does not always override the settings without a file: it does not without a reader,
and a key with too many digits makes it fail. -/
theorem exists_settings_not_overridden :
    (HasDistinctKeys [(.text "indent", .integer 2)] ∧
      settingsOfMapping false "superast.yaml" [(.text "indent", .integer 2)] = .ok {} ∧
      Settings.override? {} [(.text "indent", .integer 2)] = some { indent := 2 }) ∧
    HasDistinctKeys [(.integer (Int.ofNat tooLongFrom), .null)] ∧
      Setting.ofKey? (.integer (Int.ofNat tooLongFrom)) = none ∧
      settingsOfMapping true "superast.yaml" [(.integer (Int.ofNat tooLongFrom), .null)] =
        .error .keyDigits ∧
      Settings.override? {} [(.integer (Int.ofNat tooLongFrom), .null)] = some {} := by
  have hsingle : ∀ entry : SettingKey × SettingValue, HasDistinctKeys [entry] :=
    fun entry => List.pairwise_singleton _ entry
  have hrefused : refusalOf? (.integer (Int.ofNat tooLongFrom), .null) = some .keyDigits :=
    refusalOf?_eq_keyDigits
      (SettingKey.isSome_shown?_eq_false_iff.2 ⟨_, rfl, fitsDigits_tooLongFrom⟩)
  refine ⟨⟨hsingle _, rfl, rfl⟩, hsingle _, rfl, ?_, rfl⟩
  rw [settingsOfMapping_eq _ (hsingle _), readEntries_eq_error_iff, List.findSome?_cons, hrefused]

end TeachingTree

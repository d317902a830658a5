/-
The contents of a settings file.

A settings file holds one value, as a rule a mapping.  The keys of a mapping are texts, numbers,
truth values, null or values of other sorts, such as dates.  Keys that denote one number, with true
as one and false as zero, are one key.

Main definitions:

* `SettingKey`, `SettingValue` — the keys and values;
* `SettingKey.shown?` — a key in messages, if it can be shown;
* `SettingKey.same` — whether two keys are one;
* `mappingOf` — the mapping that a list of entries makes.
-/

import TeachingTree.Number.Amount
import TeachingTree.Number.Limit
import TeachingTree.Number.Shortest

set_option relaxedAutoImplicit false
set_option autoImplicit false

namespace TeachingTree

/-! ### Keys -/

/-- A key of a mapping. -/
inductive SettingKey where
  /-- A text. -/
  | text (value : String)
  /-- An integer. -/
  | integer (value : Int)
  /-- A truth value. -/
  | bool (value : Bool)
  /-- A floating-point number. -/
  | floating (value : Binary64)
  /-- Null. -/
  | null
  /-- A key of another sort, by the text under which it is shown. -/
  | other (shown : String)
  deriving DecidableEq

namespace SettingKey

/-- The key as it is shown in messages; none for an integer that is too long to be written. -/
def shown? : SettingKey → Option String
  | .text value => some value
  | .integer value => if fitsDigits value then some (toString value) else none
  | .bool value => some (if value then "True" else "False")
  | .floating value => some (NumberStyle.plain.text value)
  | .null => some "None"
  | .other shown => some shown

/-- The number that a key denotes. -/
def amount? : SettingKey → Option Amount
  | .integer value => some (.ofInt value)
  | .bool value => some (.ofBool value)
  | .floating value => value.amount?
  | _ => none

/-- Whether two keys are one: they denote one number, or are equal and not the number that differs
from itself. -/
def same (a b : SettingKey) : Bool :=
  match a.amount?, b.amount? with
  | some x, some y => x == y
  | none, none => a = b && a ≠ .floating .nan
  | _, _ => false

@[simp] theorem same_text (a b : String) : same (.text a) (.text b) = decide (a = b) := by
  simp [same, amount?]

end SettingKey

/-! ### Values -/

/-- A value of a settings file. -/
inductive SettingValue where
  /-- Null. -/
  | null
  /-- A truth value. -/
  | bool (value : Bool)
  /-- An integer. -/
  | integer (value : Int)
  /-- A floating-point number. -/
  | floating (value : Binary64)
  /-- A text. -/
  | text (value : String)
  /-- A list. -/
  | list (items : List SettingValue)
  /-- A mapping, in order. -/
  | mapping (entries : List (SettingKey × SettingValue))
  /-- A value of another sort. -/
  | other
  deriving Inhabited

namespace SettingValue

/-- The text of a value that is one. -/
def text? : SettingValue → Option String
  | .text value => some value
  | _ => none

end SettingValue

/-! ### Mappings -/

/-- A mapping with one more entry: a key that is there takes the new value in its old place, and
any other is put at the end. -/
def putEntry (key : SettingKey) (value : SettingValue) :
    List (SettingKey × SettingValue) → List (SettingKey × SettingValue)
  | [] => [(key, value)]
  | (k, v) :: rest => if k.same key then (k, value) :: rest else (k, v) :: putEntry key value rest

/-- The mapping that entries make one after the other. -/
def mappingOf (entries : List (SettingKey × SettingValue)) : List (SettingKey × SettingValue) :=
  entries.foldl (fun mapping (key, value) => putEntry key value mapping) []

end TeachingTree

/-
Constants as keys.

A value is a key if none of the values in it can change, so that lists, sets and mappings are no
keys.  Two values are one key if they are equal, where all numbers count by their amount, whatever
their types, and true and false count as one and zero.

Main definitions:

* `Constant.changing?` — the type that keeps a value from being a key;
* `Constant.same` — whether two values are one key;
* `Constant.insert`, `Constant.put` — sets and mappings with one more key.
-/

import TeachingTree.Constant
import TeachingTree.Number.Amount

set_option relaxedAutoImplicit false
set_option autoImplicit false

namespace TeachingTree.Constant

/-! ### What can be a key -/

mutual

/-- The name of the first type in a value that keeps it from being a key. -/
def changing? : Constant → Option String
  | .tuple items => changingItem? items
  | .list items => some (typeName (.list items))
  | .set items => some (typeName (.set items))
  | .mapping entries => some (typeName (.mapping entries))
  | _ => none

/-- The name of the first type in values that keeps one of them from being a key. -/
def changingItem? : List Constant → Option String
  | [] => none
  | item :: items => (changing? item).or (changingItem? items)

end

/-! ### Equality -/

/-- The real and the imaginary part of a number. -/
def parts? : Constant → Option (Amount × Amount)
  | .bool b => some (.ofBool b, .ofInt 0)
  | .integer n => some (.ofInt n, .ofInt 0)
  | .floating x => x.amount?.map fun real => (real, .ofInt 0)
  | .complex x y => x.amount?.bind fun real => y.amount?.map fun imaginary => (real, imaginary)
  | _ => none

/-- Whether two values that are no rows of values are one key. -/
def sameLeaf : Constant → Constant → Bool
  | .null, .null => true
  | .ellipsis, .ellipsis => true
  | .text a, .text b => a == b
  | .bytes a, .bytes b => a == b
  | a, b => match parts? a, parts? b with
    | some x, some y => x == y
    | _, _ => false

mutual

/-- Whether two values are one key. -/
def same : Constant → Constant → Bool
  | .tuple items, b => match b with
    | .tuple others => sameItems items others
    | _ => false
  | a, b => sameLeaf a b

/-- Whether values are one key each, item by item. -/
def sameItems : List Constant → List Constant → Bool
  | [], [] => true
  | a :: as, b :: bs => same a b && sameItems as bs
  | _, _ => false

end

/-! ### Sets and mappings -/

/-- A set with one more value, unless it has it. -/
def insert (value : Constant) (items : List Constant) : List Constant :=
  if items.any fun item => same item value then items else items ++ [value]

/-- A mapping with one more entry: a key that is there takes the new value in its old place, and
any other is put at the end. -/
def put (key value : Constant) :
    List (Constant × Constant) → List (Constant × Constant)
  | [] => [(key, value)]
  | (k, v) :: rest => if same k key then (k, value) :: rest else (k, v) :: put key value rest

end TeachingTree.Constant

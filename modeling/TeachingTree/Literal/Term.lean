/-
Terms: expressions as far as their values are concerned.

Only some expressions are constant: texts, bytes, words for values, numbers, a sign before a number,
a real number with an imaginary one added or taken away, and rows, sets and mappings of such
expressions.  Of all others it is only known that they have no value, and whether something could be
assigned to them.

Main definitions:

* `Term` — the terms;
* `Term.withSign`, `Term.combine` — a term after a sign, and two terms with an operator between
  them;
* `Obstacle` — why a term has no value;
* `Term.value` — the value of a term.
-/

import TeachingTree.Constant.Key
import TeachingTree.Literal.Error

set_option relaxedAutoImplicit false
set_option autoImplicit false

namespace TeachingTree.Literal

/-- An expression. -/
inductive Term where
  /-- A value that is no number. -/
  | leaf (value : Constant)
  /-- A number without a sign. -/
  | number (value : Constant)
  /-- A number after a sign. -/
  | signed (value : Constant)
  /-- A real number with an imaginary one added, or taken away. -/
  | sum (isDifference : Bool) (real : Constant) (imaginary : Binary64)
  /-- A row of terms. -/
  | tuple (items : List Term)
  /-- A list of terms. -/
  | list (items : List Term)
  /-- A set of terms, possibly empty. -/
  | set (items : List Term)
  /-- A mapping of terms to terms. -/
  | mapping (entries : List (Term × Term))
  /-- A name. -/
  | name (text : String)
  /-- Any other expression; `isTarget` says whether something could be assigned to it. -/
  | other (isTarget : Bool)

namespace Term

/-! ### Making terms -/

mutual

/-- Whether something could be assigned to a term. -/
def isTarget : Term → Bool
  | .name _ => true
  | .other isTarget => isTarget
  | .tuple items => areTargets items
  | .list items => areTargets items
  | _ => false

/-- Whether something could be assigned to each of the terms. -/
def areTargets : List Term → Bool
  | [] => true
  | item :: items => isTarget item && areTargets items

end

/-- The value of a number after a sign. -/
def signedValue (isMinus : Bool) : Constant → Constant
  | .integer n => .integer (if isMinus then -n else n)
  | .floating x => .floating (if isMinus then x.negate else x)
  | .complex x y => if isMinus then .complex x.negate y.negate else .complex x y
  | value => value

/-- A term after a sign. -/
def withSign (isMinus : Bool) : Term → Term
  | .number value => .signed (signedValue isMinus value)
  | _ => .other false

/-- The value of a real number with or without a sign. -/
def real? : Term → Option Constant
  | .number value => if value matches .complex _ _ then none else some value
  | .signed value => if value matches .complex _ _ then none else some value
  | _ => none

/-- Two terms with an operator between them. -/
def combine (operator : String) (left right : Term) : Term :=
  match left.real?, right with
  | some real, .number (.complex _ imaginary) =>
    if operator = "+" then .sum false real imaginary
    else if operator = "-" then .sum true real imaginary
    else .other false
  | _, _ => .other false

end Term

/-! ### Values -/

/-- Why a term has no value. -/
inductive Obstacle where
  /-- It is not constant. -/
  | notConstant
  /-- It is constant, but finding its value fails. -/
  | failure (e : LiteralError)
  deriving DecidableEq, Repr

/-- The value of a sum. -/
def sumValue (isDifference : Bool) (real : Constant) (imaginary : Binary64) :
    Except Obstacle Constant :=
  let imaginary := if isDifference then imaginary.negate else imaginary
  match real with
  | .integer n => match Binary64.ofInt? n with
    | some x => .ok (.complex x imaginary)
    | none => .error (.failure .integerTooLarge)
  | .floating x => .ok (.complex x imaginary)
  | _ => .error .notConstant

/-- A value that is used as a key. -/
def asKey (value : Constant) : Except Obstacle Constant :=
  match value.changing? with
  | none => .ok value
  | some typeName => .error (.failure (.notKey typeName))

namespace Term

mutual

/-- The value of a term.  The terms in it are evaluated from left to right, and a key is checked
after its value. -/
def value : Term → Except Obstacle Constant
  | .leaf value => .ok value
  | .number value => .ok value
  | .signed value => .ok value
  | .sum isDifference real imaginary => sumValue isDifference real imaginary
  | .tuple items => do return .tuple (← values items)
  | .list items => do return .list (← values items)
  | .set items => do return .set (← elements [] items)
  | .mapping entries => do return .mapping (← pairs [] entries)
  | .name _ => .error .notConstant
  | .other _ => .error .notConstant

/-- The values of terms in order. -/
def values : List Term → Except Obstacle (List Constant)
  | [] => .ok []
  | item :: items => do
    let first ← value item
    let rest ← values items
    return first :: rest

/-- The values of a set, in which some are already. -/
def elements (before : List Constant) : List Term → Except Obstacle (List Constant)
  | [] => .ok before
  | item :: items => do
    let key ← asKey (← value item)
    elements (key.insert before) items

/-- The keys and values of a mapping, in which some are already. -/
def pairs (before : List (Constant × Constant)) :
    List (Term × Term) → Except Obstacle (List (Constant × Constant))
  | [] => .ok before
  | (key, item) :: entries => do
    let key ← value key
    let item ← value item
    let key ← asKey key
    pairs (key.put item before) entries

end

end Term

end TeachingTree.Literal

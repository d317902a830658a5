/-
Real numbers as they are compared.

Integers of any size and floating-point numbers are compared exactly: a finite number counts units
of `2 ^ -1074`, of which every finite floating-point number is a multiple.

Main definitions:

* `Amount` — finite numbers and the two infinities;
* `Amount.ofInt`, `Binary64.amount?` — the amounts of integers and floating-point numbers.
-/

import TeachingTree.Number.Binary64

set_option relaxedAutoImplicit false
set_option autoImplicit false

namespace TeachingTree

/-- A real number, or an infinity. -/
inductive Amount where
  /-- A number in units of `2 ^ -1074`. -/
  | finite (units : Int)
  /-- The infinity of a sign. -/
  | infinite (negative : Bool)
  deriving DecidableEq

namespace Amount

/-- The amount of an integer. -/
def ofInt (n : Int) : Amount := .finite (n * Magnitude.unitsOfOne)

/-- The amount of a truth value: one for true and zero for false. -/
def ofBool (b : Bool) : Amount := ofInt (if b then 1 else 0)

end Amount

/-- The amount of a floating-point number that is one; both zeros are one amount. -/
def Binary64.amount? : Binary64 → Option Amount
  | .finite negative magnitude =>
    some (.finite (if negative then -magnitude.units else magnitude.units))
  | .infinite negative => some (.infinite negative)
  | .nan => none

end TeachingTree

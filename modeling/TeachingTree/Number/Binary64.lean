/-
Binary floating-point numbers of 64 bits, exactly.

A finite number is a sign and a magnitude, and a magnitude is `mantissa · 2 ^ exponent` units of
`2 ^ -1074`, the least positive number.  All arithmetic is on natural numbers, so that rounding and
printing can be reasoned about.

Main definitions:

* `Magnitude` — the finite magnitudes, each in its one canonical form;
* `Binary64` — finite numbers, the two infinities, and not-a-number;
* `Magnitude.ofRatio?` — the magnitude nearest to a ratio, a tie going to the even mantissa;
* `Binary64.ofDecimal` — the number nearest to a decimal;
* `Binary64.ofBinary?` — the number nearest to a scaled power of two.
-/

set_option relaxedAutoImplicit false
set_option autoImplicit false

namespace TeachingTree

/-! ### Magnitudes -/

/-- The form of a magnitude is canonical when its mantissa has at most 53 bits, uses all of them
unless the exponent is the least one, and the exponent does not exceed the largest one. -/
def Magnitude.Canonical (mantissa exponent : Nat) : Prop :=
  mantissa < Nat.pow 2 53 ∧ (exponent = 0 ∨ Nat.pow 2 52 ≤ mantissa) ∧ exponent ≤ 2045

instance (mantissa exponent : Nat) : Decidable (Magnitude.Canonical mantissa exponent) :=
  inferInstanceAs (Decidable (_ ∧ _))

/-- A finite magnitude: `mantissa · 2 ^ exponent` units of `2 ^ -1074`. -/
structure Magnitude where
  /-- The significant bits. -/
  mantissa : Nat
  /-- The power of two by which they are scaled. -/
  exponent : Nat
  /-- Every magnitude has one form. -/
  canonical : Magnitude.Canonical mantissa exponent := by decide
  deriving DecidableEq

namespace Magnitude

/-- The magnitude zero. -/
def zero : Magnitude := ⟨0, 0, by decide⟩

/-- The magnitude in units of `2 ^ -1074`. -/
def units (x : Magnitude) : Nat := x.mantissa * Nat.pow 2 x.exponent

/-- The number one in units of `2 ^ -1074`. -/
def unitsOfOne : Nat := Nat.pow 2 1074

/-- The magnitude of the given form, if the form is canonical. -/
def of? (mantissa exponent : Nat) : Option Magnitude :=
  if h : Canonical mantissa exponent then some ⟨mantissa, exponent, h⟩ else none

/-- The quotient rounded to the nearest natural number, a half going to the even neighbour. -/
def roundQuotient (numerator denominator : Nat) : Nat :=
  let q := numerator / denominator
  let twice := 2 * (numerator % denominator)
  if twice < denominator then q
  else if denominator < twice then q + 1
  else q + q % 2

/-- A rounded mantissa of 53 bits and one more is the same magnitude at the next exponent. -/
def ofRounded? (mantissa exponent : Nat) : Option Magnitude :=
  if mantissa = Nat.pow 2 53 then of? (Nat.pow 2 52) (exponent + 1) else of? mantissa exponent

/-- The magnitude nearest to a ratio, a tie going to the even mantissa; none when the ratio rounds
beyond the largest magnitude. -/
def ofRatio? (numerator denominator : Nat) : Option Magnitude :=
  let scaled := numerator * unitsOfOne
  let exponent := Nat.log2 (scaled / denominator) - 52
  ofRounded? (roundQuotient scaled (denominator * Nat.pow 2 exponent)) exponent

end Magnitude

/-! ### Numbers -/

/-- A floating-point number of 64 bits. -/
inductive Binary64 where
  /-- A sign and a magnitude; both zeros are of this form. -/
  | finite (negative : Bool) (magnitude : Magnitude)
  /-- The infinity of a sign. -/
  | infinite (negative : Bool)
  /-- Not a number. -/
  | nan
  deriving DecidableEq

namespace Binary64

/-- The number of a sign and a magnitude, infinite when there is no magnitude. -/
def ofMagnitude? (negative : Bool) : Option Magnitude → Binary64
  | some magnitude => .finite negative magnitude
  | none => .infinite negative

/-- The magnitude nearest to `digits · 10 ^ exponent`, or none beyond the largest one.  A decimal
with its leading digit far outside the range of magnitudes is settled by that digit's place. -/
def decimalMagnitude? (digits : Nat) (exponent : Int) : Option Magnitude :=
  let place := (Nat.toDigits 10 digits).length + exponent
  if digits = 0 then some .zero
  else if 310 < place then none
  else if place < -330 then some .zero
  else Magnitude.ofRatio? (digits * Nat.pow 10 exponent.toNat) (Nat.pow 10 (-exponent).toNat)

/-- The number nearest to `± digits · 10 ^ exponent`. -/
def ofDecimal (negative : Bool) (digits : Nat) (exponent : Int) : Binary64 :=
  ofMagnitude? negative (decimalMagnitude? digits exponent)

/-- The magnitude nearest to `digits · 2 ^ exponent`, or none beyond the largest one. -/
def binaryMagnitude? (digits : Nat) (exponent : Int) : Option Magnitude :=
  let place := Nat.log2 digits + 1 + exponent
  if digits = 0 then some .zero
  else if 1024 < place then none
  else if place < -1074 then some .zero
  else Magnitude.ofRatio? (digits * Nat.pow 2 exponent.toNat) (Nat.pow 2 (-exponent).toNat)

/-- The finite number nearest to `± digits · 2 ^ exponent`, if there is one. -/
def ofBinary? (negative : Bool) (digits : Nat) (exponent : Int) : Option Binary64 :=
  (binaryMagnitude? digits exponent).map (.finite negative)

/-- The finite number nearest to an integer, if there is one. -/
def ofInt? (n : Int) : Option Binary64 :=
  (decimalMagnitude? n.natAbs 0).map (.finite (n < 0))

/-- The number of the other sign. -/
def negate : Binary64 → Binary64
  | .finite negative magnitude => .finite (!negative) magnitude
  | .infinite negative => .infinite (!negative)
  | .nan => .nan

end Binary64

end TeachingTree

/-
The shortest decimal text of a floating-point number.

A number is written with the fewest significant digits that read back as the number; of the
decimals with that many digits the nearest one is taken.  The digits come from exact arithmetic:
for one digit, two digits, and so on up to seventeen, the two neighbours of the number on the
decimal grid are tested against the interval of reals that round to the number.

Main definitions:

* `Magnitude.Interval` — the reals that round to a magnitude, as bounds over a common unit;
* `Magnitude.shortest` — the shortest decimal of a magnitude;
* `NumberStyle` — the choices that a written form leaves open;
* `NumberStyle.text` — the text of a number in a style.
-/

import TeachingTree.Number.Binary64

set_option relaxedAutoImplicit false
set_option autoImplicit false

namespace TeachingTree

/-- A decimal: `digits · 10 ^ exponent`. -/
structure Decimal where
  /-- The significant digits as one number. -/
  digits : Nat
  /-- The power of ten by which they are scaled. -/
  exponent : Int
  deriving DecidableEq, Repr

namespace Decimal

/-- The digits as characters. -/
def digitChars (d : Decimal) : List Char := Nat.toDigits 10 d.digits

/-- Moves trailing zeros of the digits into the exponent, at most `fuel` of them. -/
def trimZerosUpTo : Nat → Decimal → Decimal
  | 0, d => d
  | fuel + 1, d =>
    if d.digits ≠ 0 ∧ d.digits % 10 = 0 then trimZerosUpTo fuel ⟨d.digits / 10, d.exponent + 1⟩
    else d

/-- The same decimal with no trailing zeros among its digits. -/
def trimZeros (d : Decimal) : Decimal := trimZerosUpTo d.digitChars.length d

/-- The power of ten at the first digit. -/
def leadingExponent (d : Decimal) : Int := d.exponent + d.digitChars.length - 1

end Decimal

namespace Magnitude

/-! ### The interval of a magnitude -/

/-- The reals that round to a magnitude, in units of `2 ^ -1076`, and the magnitude itself. -/
structure Interval where
  /-- The lower end. -/
  lower : Nat
  /-- The magnitude. -/
  middle : Nat
  /-- The upper end. -/
  upper : Nat
  /-- The ends belong to the interval: they are ties, and ties go to the even mantissa. -/
  closed : Bool

/-- The reals that round to a magnitude reach half way to its two neighbours; below a power of two
the neighbour is only half as far. -/
def interval (x : Magnitude) : Interval :=
  let step := Nat.pow 2 x.exponent
  let below := if x.mantissa = Nat.pow 2 52 ∧ x.exponent ≠ 0 then step else 2 * step
  let middle := 4 * x.mantissa * step
  ⟨middle - below, middle, middle + 2 * step, x.mantissa % 2 == 0⟩

/-- Whether the point `point / scale`, in the units of the interval, belongs to it. -/
def Interval.has (i : Interval) (scale point : Nat) : Bool :=
  if i.closed then i.lower * scale ≤ point && point ≤ i.upper * scale
  else i.lower * scale < point && point < i.upper * scale

/-- The decimal on the grid of `10 ^ exponent` that lies in the interval and is nearest to its
middle, an exact tie going to the even count, if either neighbour of the middle lies in it. -/
def Interval.onGrid? (i : Interval) (exponent : Int) : Option Decimal :=
  let unit := 4 * unitsOfOne * Nat.pow 10 exponent.toNat
  let scale := Nat.pow 10 (-exponent).toNat
  let middle := i.middle * scale
  let count := middle / unit
  let down := middle - count * unit
  let up := (count + 1) * unit - middle
  match i.has scale (count * unit), i.has scale ((count + 1) * unit) with
  | true, true =>
    if down < up || (down == up && count % 2 == 0) then some ⟨count, exponent⟩
    else some ⟨count + 1, exponent⟩
  | true, false => some ⟨count, exponent⟩
  | false, true => some ⟨count + 1, exponent⟩
  | false, false => none

/-- The power of ten at the first digit of a positive magnitude. -/
def leadingExponent (x : Magnitude) : Int :=
  let unit := unitsOfOne
  if unit ≤ x.units then ((Nat.toDigits 10 (x.units / unit)).length : Int) - 1
  else -((Nat.toDigits 10 (unit / x.units)).length : Int)

/-- The decimal with the fewest digits that reads back as the magnitude, nearest among those;
seventeen digits always do. -/
def shortest (x : Magnitude) : Decimal :=
  if x.mantissa = 0 then ⟨0, 0⟩
  else
    let first := x.leadingExponent
    let found := (List.range 17).findSome? fun (n : Nat) =>
      x.interval.onGrid? (first - n)
    (found.getD ⟨0, 0⟩).trimZeros

end Magnitude

/-! ### Styles -/

/-- What a written form of floating-point numbers leaves open. -/
structure NumberStyle where
  /-- The least power of ten at the first digit that is written positionally. -/
  leastPositional : Int := -4
  /-- The greatest power of ten at the first digit that is written positionally. -/
  greatestPositional : Int := 15
  /-- The text of infinity, after its sign. -/
  infinity : String
  /-- The text of not-a-number. -/
  nan : String

/-- Digits in positional notation, always with a point and a digit on either side of it. -/
def positionalText (digits : List Char) (leading : Int) : List Char :=
  if leading < 0 then
    '0' :: '.' :: List.replicate (-leading - 1).toNat '0' ++ digits
  else
    let whole := leading.toNat + 1
    if digits.length ≤ whole then digits ++ List.replicate (whole - digits.length) '0' ++ ['.', '0']
    else digits.take whole ++ '.' :: digits.drop whole

/-- Digits in exponent notation: a point only between digits, then the signed exponent with at
least two digits. -/
def exponentText (digits : List Char) (leading : Int) : List Char :=
  let size := Nat.toDigits 10 leading.natAbs
  let point := match digits with
    | first :: second :: rest => first :: '.' :: second :: rest
    | short => short
  point ++ 'e' :: (if leading < 0 then '-' else '+') ::
    (List.replicate (2 - size.length) '0' ++ size)

namespace NumberStyle

/-- The text of a magnitude. -/
def magnitudeText (style : NumberStyle) (x : Magnitude) : List Char :=
  let shortest := x.shortest
  let leading := shortest.leadingExponent
  if style.leastPositional ≤ leading ∧ leading ≤ style.greatestPositional then
    positionalText shortest.digitChars leading
  else exponentText shortest.digitChars leading

/-- The text of a number: a minus sign for the negative ones, negative zero among them. -/
def text (style : NumberStyle) : Binary64 → String
  | .nan => style.nan
  | .infinite negative => (if negative then "-" else "") ++ style.infinity
  | .finite negative x =>
    (if negative then "-" else "") ++ String.ofList (style.magnitudeText x)

/-- The style of messages and answers. -/
def plain : NumberStyle where
  infinity := "inf"
  nan := "nan"

/-- The style of formatted documents. -/
def document : NumberStyle where
  infinity := "Infinity"
  nan := "NaN"

end NumberStyle

end TeachingTree

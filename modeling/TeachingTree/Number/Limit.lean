/-
The longest integers that are read and written in decimal digits.

Main definitions:

* `maxDigits` — the largest number of digits;
* `isLimited` — whether the limit holds for a base;
* `fitsDigits` — whether an integer can be written, and `digitsMessage` — what is said if it cannot.
-/

set_option relaxedAutoImplicit false
set_option autoImplicit false

namespace TeachingTree

/-- The largest number of digits of an integer that is read or written. -/
def maxDigits : Nat := 4300

/-- Whether the number of digits is limited in a base: in all but the powers of two. -/
def isLimited (base : Nat) : Bool := base ∉ [2, 4, 8, 16, 32]

/-- The least natural number that is too long to be written. -/
def tooLongFrom : Nat := Nat.pow 10 maxDigits

/-- Whether an integer can be written in decimal digits. -/
def fitsDigits (n : Int) : Bool := n.natAbs < tooLongFrom

theorem fitsDigits_ofNat (n : Nat) : fitsDigits (Int.ofNat n) = decide (n < tooLongFrom) := rfl

theorem fitsDigits_tooLongFrom : fitsDigits (Int.ofNat tooLongFrom) = false :=
  (fitsDigits_ofNat tooLongFrom).trans (decide_eq_false (Nat.lt_irrefl tooLongFrom))

/-- The text of the failure to write an integer. -/
def digitsMessage : String :=
  "Exceeds the limit (" ++ toString maxDigits ++ " digits) for integer string conversion; " ++
    "use sys.set_int_max_str_digits() to increase the limit"

end TeachingTree

/-
Texts that have no encoding.

A file holds characters, so that halves of surrogate pairs cannot be written to it, not even two of
them that would make a pair.  Where they stand in the text of a value is found by writing it twice,
with the halves replaced by different characters each time: the two texts differ just there.

Main definitions:

* `Json.lifted` — a value with characters in the places of halves;
* `EncodingError`, `EncodingError.message` — where the first halves of a text stand;
* `Json.encodingError?` — the first halves in the text of a value.
-/

import TeachingTree.Json.Printer

set_option relaxedAutoImplicit false
set_option autoImplicit false

namespace TeachingTree

/-- Why a text cannot be written to a file. -/
structure EncodingError where
  /-- The index of the first half. -/
  first : Nat
  /-- The index of the last of the halves that follow each other from there. -/
  last : Nat
  /-- The number of the first half. -/
  number : Nat
  deriving DecidableEq, Repr

/-- The text of the error. -/
def EncodingError.message (e : EncodingError) : String :=
  let place :=
    if e.first = e.last then
      "character '\\u" ++ String.ofList (Text.hexDigits 4 e.number) ++ "' in position " ++
        toString e.first
    else "characters in position " ++ toString e.first ++ "-" ++ toString e.last
  "'utf-8' codec can't encode " ++ place ++ ": surrogates not allowed"

namespace Json

/-! ### Halves as characters -/

/-- A code point as a character; a half is one so many code points further on. -/
def liftedPoint (distance : Nat) : Text.CodePoint → Char
  | .char c => c
  | half => Char.ofNat (half.toNat + distance)

mutual

/-- The value with all halves in its texts so many code points further on. -/
def lifted (distance : Nat) : Json → Json
  | .points value => .text (String.ofList (value.map (liftedPoint distance)))
  | .array items => .array (liftedItems distance items)
  | .object members => .object (liftedMembers distance members)
  | value => value

/-- The values with all halves in their texts so many code points further on. -/
def liftedItems (distance : Nat) : List Json → List Json
  | [] => []
  | item :: items => lifted distance item :: liftedItems distance items

/-- The members with all halves in their texts so many code points further on. -/
def liftedMembers (distance : Nat) : List (String × Json) → List (String × Json)
  | [] => []
  | (key, value) :: members => (key, lifted distance value) :: liftedMembers distance members

end

/-! ### Places -/

/-- The number of halves, which are the code points from U+D800 to U+DFFF. -/
def countOfHalves : Nat := 0x800

/-- Where two texts differ for the first time. -/
def firstDifference? (a b : List Char) : Option EncodingError :=
  let pairs := a.zip b
  let first := (pairs.takeWhile fun (x, y) => x == y).length
  let run := (pairs.drop first).takeWhile fun (x, y) => x != y
  run.head?.map fun (x, _) => ⟨first, first + run.length - 1, x.toNat - countOfHalves⟩

/-- Where the first halves stand in the text of a value with the given indentation. -/
def encodingError? (indent : Option Int) (value : Json) : Option EncodingError :=
  let text (distance : Nat) := ((value.lifted distance).render indent).toList
  firstDifference? (text countOfHalves) (text (2 * countOfHalves))

end Json

end TeachingTree

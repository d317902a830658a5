/-
Literals of texts and bytes.

Letters before the quotes of a literal say whether it is a text, a template or bytes, and whether
its backslashes stand for themselves; otherwise it knows the escapes of `takeEscape?`.

Main definitions:

* `Quotation` — what a literal stands for;
* `quotation?` — what a body stands for;
* `takeLiteral?` — one literal.
-/

import TeachingTree.Literal.Escape
import TeachingTree.Literal.Template

set_option relaxedAutoImplicit false
set_option autoImplicit false

namespace TeachingTree.Literal

open Text

/-- What a literal stands for. -/
inductive Quotation where
  /-- A text. -/
  | text (points : List CodePoint)
  /-- Bytes. -/
  | bytes (value : List UInt8)
  /-- A text with fields, of which the expressions are known. -/
  | template (fields : List (List Char))
  deriving DecidableEq

/-- The kinds of literals. -/
inductive QuotationKind where
  /-- Texts. -/
  | text
  /-- Bytes. -/
  | bytes
  /-- Templates. -/
  | template
  deriving DecidableEq, Repr

/-- The letters that may stand before a literal, and for each whether backslashes stand for
themselves, and the kind of the literal. -/
def quotationForms : List (List Char × Bool × QuotationKind) :=
  [([], false, .text), (['u'], false, .text), (['r'], true, .text), (['b'], false, .bytes),
    (['b', 'r'], true, .bytes), (['r', 'b'], true, .bytes), (['f'], false, .template),
    (['f', 'r'], true, .template), (['r', 'f'], true, .template)]

/-- The byte of a code point. -/
def byteOf : CodePoint → UInt8
  | .char c => c.toNat.toUInt8
  | _ => 0

/-- What a literal of a form with the given body stands for.  Bytes are written in ASCII, and no
expression in a field holds a backslash. -/
def quotation? (names : CharacterNames) (isRaw : Bool) (kind : QuotationKind) (body : List Char) :
    Option Quotation := do
  let points ← if isRaw then some (body.map .char) else unescape? names (kind = .bytes) body
  match kind with
  | .text => return .text points
  | .bytes => if body.all fun c => c.toNat < 0x80 then some (.bytes (points.map byteOf)) else none
  | .template =>
    let fields ← fields? isRaw 0 body
    if fields.any fun field => field.contains '\\' then none else some (.template fields)

/-- Takes a literal off the front. -/
def takeLiteral? (names : CharacterNames) (cs : List Char) : Option (Quotation × List Char) :=
  let letters := cs.takeWhile "rRuUbBfF".toList.contains
  match quotationForms.lookup (letters.map Char.toLower), cs.drop letters.length with
  | some (isRaw, kind), quote :: rest =>
    if isQuote quote then
      (takeQuoted? quote rest).bind fun (body, rest) =>
        (quotation? names isRaw kind body).map fun value => (value, rest)
    else none
  | _, _ => none

/-- A literal takes at least one character. -/
theorem length_takeLiteral?_lt {names : CharacterNames} {cs rest : List Char} {value : Quotation}
    (h : takeLiteral? names cs = some (value, rest)) : rest.length < cs.length := by
  simp only [takeLiteral?] at h
  split at h
  · rename_i isRaw kind quote tail hf hd
    split at h
    · simp only [Option.bind_eq_some_iff, Option.map_eq_some_iff, Prod.mk.injEq, Prod.exists] at h
      obtain ⟨body, after, hq, value', -, -, rfl⟩ := h
      have hl := length_takeQuoted?_lt hq
      have hc := congrArg List.length hd
      simp only [List.length_drop, List.length_cons] at hc
      omega
    · simp at h
  · simp at h

end TeachingTree.Literal

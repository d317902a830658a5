/-
**How integers are written.**

An integer is written in one of four notations.  A mark tells the notation apart: `0x` and `0b` for
hexadecimal and binary digits, a zero for octal ones, and nothing for decimal ones, which do not
begin with a zero.  Quotes may separate the digits, and letters that name a type may follow them.

A token is taken apart in the reverse order: first the quotes go, then the letters at its end, and
what is left shows its notation.  These steps work on one text, so they could get in each other's
way: hexadecimal digits have the letter of the binary mark among them, the mark of octal digits is a
digit itself, and a zero alone is a mark without digits.  They do not: exactly the digits are handed
over to be read, in the base of their notation.  The one exception is a zero alone, which is read in
base ten.

How many digits can be read is a matter of the reader.  The one at hand refuses decimal integers
that are longer than `maxDigits`, and no others; a reader without such a limit gives every token the
number that its digits denote.

Main definitions:

* `Radix` — the notations, with their bases, marks and digits;
* `IntegerToken` — integers as they are written, `IntegerToken.text` and `IntegerToken.value`;
* `integerPart`, `decodeIntegerBy` — the part of a token that is read, and its value for a reader;
* `ReadsExactly` — readers that read every number of digits.

Main results:

* `IntegerToken.integerPart_text` — **exactly the digits of a token are read**;
* `decodeInteger_token` — **a token is decoded to the number that its digits denote**.
-/

import TeachingTree.Literal.Number
import TeachingTree.Proofs.Literal.Escape

set_option relaxedAutoImplicit false
set_option autoImplicit false

namespace TeachingTree.Literal

open Text

/-! ### Notations -/

/-- The notations of integers. -/
inductive Radix where
  /-- Two digits. -/
  | binary
  /-- Eight digits. -/
  | octal
  /-- Ten digits. -/
  | decimal
  /-- Sixteen digits, six of which are letters. -/
  | hexadecimal
  deriving DecidableEq, Repr

namespace Radix

/-- The number of digits. -/
def base : Radix → Nat
  | binary => 2
  | octal => 8
  | decimal => 10
  | hexadecimal => 16

/-- What is written in front of the digits. -/
def marks : Radix → List String
  | binary => ["0b", "0B"]
  | octal => ["0"]
  | decimal => [""]
  | hexadecimal => ["0x", "0X"]

/-- The characters that are digits. -/
def letters : Radix → List Char
  | binary => "01".toList
  | octal => "01234567".toList
  | decimal => "0123456789".toList
  | hexadecimal => "0123456789abcdefABCDEF".toList

/-- Whether a character is a digit. -/
def isDigit (radix : Radix) (c : Char) : Bool := radix.letters.contains c

variable {radix : Radix} {c : Char}

/-- What is checked for all digits. -/
theorem of_isDigit {p : Char → Bool} (hall : radix.letters.all p = true)
    (h : radix.isDigit c = true) : p c = true :=
  List.all_eq_true.1 hall c (List.contains_iff_mem.1 h)

theorem digitInBase?_of_isDigit (h : radix.isDigit c = true) :
    digitInBase? radix.base c = some (digitLetters.idxOf c.toLower) := by
  have hvalue : (digitInBase? radix.base c == some (digitLetters.idxOf c.toLower)) = true := by
    cases radix <;>
      exact of_isDigit (p := fun c => digitInBase? _ c == some (digitLetters.idxOf c.toLower))
        (by decide) h
  exact beq_iff_eq.1 hvalue

/-- A digit is an ASCII character as it stands, and neither a blank nor a sign. -/
theorem plainDigit_of_isDigit (h : radix.isDigit c = true) :
    plainDigit c = c ∧ isAsciiBlank c = false ∧ c ≠ '-' ∧ c ≠ '+' := by
  have hplain : (plainDigit c == c && !isAsciiBlank c && c != '-' && c != '+') = true := by
    cases radix <;>
      exact of_isDigit (p := fun c => plainDigit c == c && !isAsciiBlank c && c != '-' && c != '+')
        (by decide) h
  simpa [and_assoc] using hplain

/-- The letter that marks a base is no digit in it. -/
theorem baseMarker?_ne_of_isDigit (h : radix.isDigit c = true) :
    baseMarker? radix.base ≠ some c.toLower := by
  have hmarker : (baseMarker? radix.base != some c.toLower) = true := by
    cases radix <;>
      exact of_isDigit (p := fun c => baseMarker? _ != some c.toLower) (by decide) h
  exact bne_iff_ne.1 hmarker

/-- A digit is neither a letter of a suffix nor a quote or a line end. -/
theorem not_isIntegerSuffix_of_isDigit (h : radix.isDigit c = true) :
    isIntegerSuffix c = false ∧ c ≠ '\'' ∧ c ≠ '\n' := by
  have hdigit : (!isIntegerSuffix c && c != '\'' && c != '\n') = true := by
    cases radix <;>
      exact of_isDigit (p := fun c => !isIntegerSuffix c && c != '\'' && c != '\n') (by decide) h
  simpa [and_assoc] using hdigit

end Radix

/-! ### Reading digits -/

section Reading

variable {radix : Radix} {digits : List Char}

theorem moreDigits_of_isDigit (h : ∀ c ∈ digits, radix.isDigit c = true) :
    moreDigits radix.base digits = (digits.map fun c => digitLetters.idxOf c.toLower, []) := by
  induction digits with
  | nil => rfl
  | cons c digits ih =>
      have hvalue := Radix.digitInBase?_of_isDigit (h c List.mem_cons_self)
      have hc : c ≠ '_' := by
        rintro rfl
        cases hvalue
      have hrest := ih fun c' hc' => h c' (List.mem_cons_of_mem _ hc')
      simp [moreDigits, hc, hvalue, hrest]

theorem takeDigits_of_isDigit (hne : digits ≠ []) (h : ∀ c ∈ digits, radix.isDigit c = true) :
    takeDigits radix.base digits = (digits.map fun c => digitLetters.idxOf c.toLower, []) := by
  cases digits with
  | nil => exact absurd rfl hne
  | cons c digits =>
      have hvalue := Radix.digitInBase?_of_isDigit (h c List.mem_cons_self)
      have hrest := moreDigits_of_isDigit fun c' hc' => h c' (List.mem_cons_of_mem _ hc')
      simp only [takeDigits, hvalue, hrest, List.map_cons]

/-- Digits are not changed before they are read. -/
theorem takeSign_of_isDigit (h : ∀ c ∈ digits, radix.isDigit c = true) :
    takeSign (dropAsciiBlank (plainDigits digits)) = (false, digits) := by
  have hplain : plainDigits digits = digits := by
    rw [plainDigits, List.map_congr_left fun c hc => (Radix.plainDigit_of_isDigit (h c hc)).1,
      List.map_id']
  rw [hplain]
  cases digits with
  | nil => rfl
  | cons c digits =>
      obtain ⟨_, hblank, hminus, hplus⟩ := Radix.plainDigit_of_isDigit (h c List.mem_cons_self)
      rw [dropAsciiBlank, List.dropWhile_cons_of_neg (by simp [hblank])]
      simp [takeSign, hminus, hplus]

theorem dropBaseMarker_of_isDigit (h : ∀ c ∈ digits, radix.isDigit c = true) :
    dropBaseMarker radix.base digits = digits := by
  unfold dropBaseMarker
  split
  · rename_i c rest
    rw [if_neg (Radix.baseMarker?_ne_of_isDigit (h c (by simp)))]
  · rfl

/-- Digits are read as the number that they denote, if they are not too many. -/
theorem readInteger_of_isDigit (hne : digits ≠ []) (h : ∀ c ∈ digits, radix.isDigit c = true) :
    readInteger radix.base digits =
      if radix = .decimal ∧ maxDigits < digits.length then .error (.tooLong digits.length)
      else .ok (numeral radix.base digits) := by
  have hlimited : isLimited radix.base = true ↔ radix = .decimal := by cases radix <;> decide
  have hnumeral : ofDigits radix.base (digits.map fun c => digitLetters.idxOf c.toLower) =
      numeral radix.base digits := by
    rw [ofDigits, numeral, List.foldl_map]
  have hvalues : (digits.map fun c => digitLetters.idxOf c.toLower) ≠ [] := by simpa using hne
  simp only [readInteger, takeSign_of_isDigit h, dropBaseMarker_of_isDigit h,
    takeDigits_of_isDigit hne h]
  simp [hlimited, hnumeral, allAsciiBlank]

end Reading

/-! ### Tokens -/

/-- The letters of suffixes. -/
def suffixLetters : List Char := "uUlLzZ".toList

/-- An integer as it is written.  Only octal digits may be missing behind their mark, and decimal
digits do not begin with a zero. -/
structure IntegerToken where
  /-- The notation. -/
  radix : Radix
  /-- What is in front of the digits. -/
  mark : String
  /-- The digits, with quotes among them. -/
  body : List Char
  /-- What is behind the digits. -/
  suffix : List Char
  mark_mem : mark ∈ radix.marks := by decide
  all_body : body.all (fun c => c == '\'' || radix.isDigit c) = true := by decide
  all_suffix : suffix.all suffixLetters.contains = true := by decide
  digits_ne_nil : radix ≠ .octal → body.filter (· != '\'') ≠ [] := by decide
  head?_digits_ne : radix = .decimal → (body.filter (· != '\'')).head? ≠ some '0' := by decide

namespace IntegerToken

/-- The text of a token. -/
def text (token : IntegerToken) : String :=
  String.ofList (token.mark.toList ++ token.body ++ token.suffix)

/-- The digits of a token. -/
def digits (token : IntegerToken) : List Char := token.body.filter (· != '\'')

/-- The number that the digits of a token denote. -/
def value (token : IntegerToken) : Nat := numeral token.radix.base token.digits

variable (token : IntegerToken)

theorem isDigit_of_mem_digits : ∀ c ∈ token.digits, token.radix.isDigit c = true := by
  intro c hc
  obtain ⟨hbody, hquote⟩ := List.mem_filter.1 hc
  have hdigit := List.all_eq_true.1 token.all_body c hbody
  rw [Bool.or_eq_true, beq_iff_eq] at hdigit
  exact hdigit.resolve_left (bne_iff_ne.1 hquote)

/-- The quotes of a token are those among its digits. -/
theorem dropSeparators_text :
    dropSeparators token.text.toList = token.mark.toList ++ token.digits ++ token.suffix := by
  have hmark : token.mark.toList.filter (· != '\'') = token.mark.toList := by
    have hmarks : ∀ radix : Radix, ∀ mark ∈ radix.marks,
        mark.toList.filter (· != '\'') = mark.toList := by
      intro radix
      cases radix <;> decide
    exact hmarks _ _ token.mark_mem
  have hsuffix : token.suffix.filter (· != '\'') = token.suffix := by
    have hletters : suffixLetters.all (· != '\'') = true := by decide
    rw [List.filter_eq_self]
    intro c hc
    have hletter := List.all_eq_true.1 token.all_suffix c hc
    exact List.all_eq_true.1 hletters c (List.contains_iff_mem.1 hletter)
  rw [text, String.toList_ofList, dropSeparators, List.filter_append, List.filter_append, hmark,
    hsuffix, digits]

/-- There is a digit in front of the suffix: the mark of octal digits is one itself. -/
theorem exists_concat : ∃ before last, token.mark.toList ++ token.digits = before ++ [last] ∧
    token.radix.isDigit last = true := by
  rcases List.eq_nil_or_concat token.digits with hnone | ⟨before, last, hlast⟩
  · have hoctal : token.radix = .octal := by
      apply Decidable.byContradiction
      intro hother
      exact token.digits_ne_nil hother hnone
    have hmark := token.mark_mem
    rw [hoctal, Radix.marks, List.mem_singleton] at hmark
    refine ⟨[], '0', ?_, ?_⟩
    · rw [hnone, hmark]
      rfl
    · rw [hoctal]
      rfl
  · rw [List.concat_eq_append] at hlast
    refine ⟨token.mark.toList ++ before, last, ?_, ?_⟩
    · rw [hlast, List.append_assoc]
    · refine token.isDigit_of_mem_digits last ?_
      rw [hlast]
      exact List.mem_append_right _ List.mem_cons_self

end IntegerToken

/-- A suffix behind a digit is dropped, and nothing else. -/
theorem dropFinal_append {radix : Radix} {last : Char} (hlast : radix.isDigit last = true)
    (before : List Char) {suffix : List Char} (h : suffix.all suffixLetters.contains = true) :
    dropFinal (List.dropWhile isIntegerSuffix) (before ++ [last] ++ suffix) = before ++ [last] := by
  obtain ⟨hother, _, hbreak⟩ := Radix.not_isIntegerSuffix_of_isDigit hlast
  have hdrop : List.dropWhile isIntegerSuffix (before ++ [last] ++ suffix).reverse =
      (before ++ [last]).reverse := by
    have hletters : ∀ c ∈ suffix.reverse, isIntegerSuffix c = true := by
      intro c hc
      exact List.all_eq_true.1 h c (List.mem_reverse.1 hc)
    rw [List.reverse_append, List.dropWhile_append_of_pos hletters, List.reverse_append,
      List.reverse_singleton, List.singleton_append, List.dropWhile_cons_of_neg (by simp [hother])]
  have hend : (before ++ [last] ++ suffix).reverse.head? ≠ some '\n' := by
    rw [List.head?_reverse]
    rcases List.eq_nil_or_concat suffix with rfl | ⟨front, letter, rfl⟩
    · simpa using hbreak
    · have hletter : suffixLetters.contains letter = true := by simp at h; simp [h.2]
      have hletters : suffixLetters.all (· != '\n') = true := by decide
      have hne := List.all_eq_true.1 hletters letter (List.contains_iff_mem.1 hletter)
      simpa [← List.append_assoc] using hne
  unfold dropFinal
  split
  · rename_i rest heq
    rw [heq] at hend
    exact absurd rfl hend
  · rw [hdrop, List.reverse_reverse]

/-! ### What is read of a token -/

/-- The base in which a text without separators and suffix is read, and the part of it that is. -/
def baseAndPart : List Char → Nat × List Char
  | '0' :: c :: rest =>
    if c == 'x' || c == 'X' then (16, rest)
    else if c == 'b' || c == 'B' then (2, rest)
    else (8, c :: rest)
  | cs => (10, cs)

/-- The base in which a token is read, and the part of it that is. -/
def integerPart (token : String) : Nat × List Char :=
  baseAndPart (dropFinal (List.dropWhile isIntegerSuffix) (dropSeparators token.toList))

/-- Why a token has no value if a reader finds fault with the part that it is given. -/
def integerError (base : Nat) (part : List Char) : IntegerFault → LiteralError
  | .malformed => .notInteger base (String.ofList part)
  | .tooLong count => .tooLong count

/-- The value of an integer token for a reader of integers. -/
def decodeIntegerBy (read : Nat → List Char → Except IntegerFault Int) (token : String) :
    Except LiteralError Int :=
  let (base, part) := integerPart token
  (read base part).mapError (integerError base part)

theorem integerInBase_eq (base : Nat) (part : List Char) :
    integerInBase base part = (readInteger base part).mapError (integerError base part) := by
  rw [integerInBase]
  rcases readInteger base part with (_ | count) | n <;> rfl

/-- Tokens are decoded by `readInteger`. -/
theorem decodeInteger_eq (token : String) :
    decodeInteger token = decodeIntegerBy readInteger token := by
  have hplain : ∀ cs, plainInteger cs = integerInBase (baseAndPart cs).1 (baseAndPart cs).2 := by
    intro cs
    fun_cases baseAndPart cs with
    | case1 c rest hhexadecimal => rw [plainInteger, if_pos hhexadecimal]
    | case2 c rest hother hbinary => rw [plainInteger, if_neg hother, if_pos hbinary]
    | case3 c rest hother hoctal => rw [plainInteger, if_neg hother, if_neg hoctal]
    | case4 cs hdecimal => rw [plainInteger]; exact hdecimal
  rw [decodeInteger, hplain, integerInBase_eq]
  rfl

/-- Digits behind their mark are read in the base of their notation. -/
theorem baseAndPart_mark {radix : Radix} {mark : String} (hmark : mark ∈ radix.marks)
    {digits : List Char} (hne : digits ≠ []) (h : ∀ c ∈ digits, radix.isDigit c = true)
    (hzero : radix = .decimal → digits.head? ≠ some '0') :
    baseAndPart (mark.toList ++ digits) = (radix.base, digits) := by
  obtain ⟨c, rest, rfl⟩ := List.exists_cons_of_ne_nil hne
  cases radix with
  | binary | hexadecimal =>
      simp only [Radix.marks, List.mem_cons, List.not_mem_nil, or_false] at hmark
      rcases hmark with rfl | rfl <;> rfl
  | octal =>
      rw [Radix.marks, List.mem_singleton] at hmark
      have hc : (!(c == 'x' || c == 'X') && !(c == 'b' || c == 'B')) = true :=
        Radix.of_isDigit (p := fun c => !(c == 'x' || c == 'X') && !(c == 'b' || c == 'B'))
          (by decide) (h c List.mem_cons_self)
      simp only [Bool.and_eq_true, Bool.not_eq_true'] at hc
      have htext : mark.toList ++ c :: rest = '0' :: c :: rest := by
        rw [hmark]
        rfl
      rw [htext, baseAndPart, if_neg (by simp [hc.1]), if_neg (by simp [hc.2])]
      rfl
  | decimal =>
      rw [Radix.marks, List.mem_singleton] at hmark
      have hc : c ≠ '0' := by simpa using hzero rfl
      subst hmark
      unfold baseAndPart
      split
      · rename_i heq
        cases heq
        exact absurd rfl hc
      · rfl

namespace IntegerToken

variable (token : IntegerToken)

/-- Exactly the digits of a token are read, in the base of its notation; a zero without digits
behind it is read itself, in base ten. -/
theorem integerPart_text :
    integerPart token.text =
      if token.digits = [] then (10, ['0']) else (token.radix.base, token.digits) := by
  obtain ⟨before, last, hlast, hdigit⟩ := token.exists_concat
  rw [integerPart, token.dropSeparators_text, hlast,
    dropFinal_append hdigit before token.all_suffix, ← hlast]
  split
  · rename_i hnone
    have hoctal : token.radix = .octal := by
      apply Decidable.byContradiction
      intro hother
      exact token.digits_ne_nil hother hnone
    have hmark := token.mark_mem
    rw [hoctal, Radix.marks, List.mem_singleton] at hmark
    rw [hnone, hmark]
    rfl
  · rename_i hne
    exact baseAndPart_mark token.mark_mem hne token.isDigit_of_mem_digits token.head?_digits_ne

end IntegerToken

/-! ### Values -/

/-- Whether a reader gives every number of digits the number that they denote. -/
def ReadsExactly (read : Nat → List Char → Except IntegerFault Int) : Prop :=
  ∀ (radix : Radix) (digits : List Char), digits ≠ [] → (∀ c ∈ digits, radix.isDigit c = true) →
    read radix.base digits = .ok (numeral radix.base digits)

/-- **A token is decoded to the number that its digits denote**, if any number of digits can be
read.  The limit of `readInteger` matters only for decimal digits. -/
theorem decodeInteger_token (token : IntegerToken) :
    (∀ read, ReadsExactly read → decodeIntegerBy read token.text = .ok token.value) ∧
      decodeInteger token.text =
        if token.radix = .decimal ∧ maxDigits < token.digits.length then
          .error (.tooLong token.digits.length)
        else .ok token.value := by
  have hpart := token.integerPart_text
  rw [decodeInteger_eq]
  by_cases hnone : token.digits = []
  · -- a zero, which is read as a decimal digit
    rw [if_pos hnone] at hpart
    have hzero : ∀ c ∈ ['0'], Radix.decimal.isDigit c = true := by
      intro c hc
      rw [List.mem_singleton.1 hc]
      rfl
    have hvalue : token.value = numeral 10 ['0'] := by
      rw [IntegerToken.value, hnone]
      rfl
    constructor
    · intro read hread
      rw [decodeIntegerBy, hpart, hvalue]
      exact congrArg (Except.mapError _) (hread .decimal ['0'] (by decide) hzero)
    · have hshort : ¬(token.radix = .decimal ∧ maxDigits < token.digits.length) := by
        rw [hnone]
        exact fun h => Nat.not_lt_zero _ h.2
      rw [decodeIntegerBy, hpart, hvalue, if_neg hshort]
      exact congrArg (Except.mapError _) (readInteger_of_isDigit (by decide) hzero)
  · rw [if_neg hnone] at hpart
    constructor
    · intro read hread
      rw [decodeIntegerBy, hpart]
      exact congrArg (Except.mapError _)
        (hread token.radix token.digits hnone token.isDigit_of_mem_digits)
    · simp only [decodeIntegerBy, hpart,
        readInteger_of_isDigit hnone token.isDigit_of_mem_digits, IntegerToken.value]
      split <;> rfl

/-- Reads integers as `readInteger` does, but whatever their length is. -/
def readAnyLength (base : Nat) (text : List Char) : Except IntegerFault Int :=
  match readInteger base text with
  | .error (.tooLong _) => .ok (numeral base text)
  | outcome => outcome

theorem readsExactly_readAnyLength : ReadsExactly readAnyLength := by
  intro radix digits hne h
  rw [readAnyLength, readInteger_of_isDigit hne h]
  by_cases hlong : radix = .decimal ∧ maxDigits < digits.length
  · rw [if_pos hlong]
  · rw [if_neg hlong]

/-- Hexadecimal digits that look like a binary mark, with quotes among them. -/
def hexadecimalToken : IntegerToken where
  radix := .hexadecimal
  mark := "0X"
  body := "0b'Ef''0".toList
  suffix := "uLL".toList

/-- Octal digits with zeros in front. -/
def octalToken : IntegerToken where
  radix := .octal
  mark := "0"
  body := "0'017".toList
  suffix := "Z".toList

/-- The quotes, the suffix and the zeros in front of the digits do not count. -/
theorem decodeInteger_token_quotes :
    ReadsExactly readAnyLength ∧
      decodeIntegerBy readAnyLength "0X0b'Ef''0uLL" = .ok 0xbef0 ∧
      decodeInteger "00'017Z" = .ok 0o17 :=
  ⟨readsExactly_readAnyLength,
    (decodeInteger_token hexadecimalToken).1 readAnyLength readsExactly_readAnyLength,
    (decodeInteger_token octalToken).2⟩

end TeachingTree.Literal

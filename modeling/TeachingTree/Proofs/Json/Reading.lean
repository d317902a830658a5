/-
**What a JSON text denotes.**

A text is read in two steps.  First it is cut into tokens: brackets, commas, colons, texts between
quotes, and words, which are numbers or one of a few names.  Blanks between tokens do not matter.
Then the tokens are read from left to right by a machine, whose state says what may follow and which
lists and objects are open around the place that it has come to.

The grammar is the usual one, with three more names for the floating-point numbers that are not
finite.  A number with a fraction or an exponent is kept as it is written; a number without is an
integer.  If a key occurs twice in an object, the later value takes the place of the earlier one.

Main definitions:

* `JsonText.Datum` — what a text denotes;
* `JsonText.Token`, `JsonText.tokens?` — tokens, and the tokens of a text;
* `JsonText.Stage`, `JsonText.Frame`, `JsonText.Reader`, `JsonText.Reader.step` — the machine that
  reads tokens;
* `JsonText.read` — **what a text denotes**.

Main results:

* `JsonText.length_takeText?_lt` — a text between quotes ends before what follows it;
* `JsonText.tokens?_space`, `JsonText.tokens?_mark`, `JsonText.tokens?_quote`,
  `JsonText.tokens?_word` — the first token of a text.
-/

import TeachingTree.Json.Value
import TeachingTree.Text.Digit

set_option relaxedAutoImplicit false
set_option autoImplicit false

namespace TeachingTree.JsonText

open Text (CodePoint)

/-! ### Data -/

/-- What a JSON text denotes. -/
inductive Datum where
  /-- The null value. -/
  | null
  /-- A truth value. -/
  | bool (value : Bool)
  /-- An integer. -/
  | integer (value : Int)
  /-- A number that is not written as an integer, by its text. -/
  | number (text : String)
  /-- A text. -/
  | text (points : List CodePoint)
  /-- A list of values. -/
  | array (items : List Datum)
  /-- Named values, in order. -/
  | object (members : List (List CodePoint × Datum))
  deriving Inhabited

namespace Datum

/-- The members of an object with one more: it takes the place of a member of the same name. -/
def put (key : List CodePoint) (value : Datum) :
    List (List CodePoint × Datum) → List (List CodePoint × Datum)
  | [] => [(key, value)]
  | (other, old) :: members =>
    if other = key then (key, value) :: members else (other, old) :: put key value members

/-- A member of a new name comes last. -/
theorem put_of_notMem {key : List CodePoint} {value : Datum}
    {members : List (List CodePoint × Datum)} (h : key ∉ members.map Prod.fst) :
    put key value members = members ++ [(key, value)] := by
  induction members with
  | nil => rfl
  | cons member members ih =>
      obtain ⟨other, old⟩ := member
      rw [List.map_cons, List.mem_cons, not_or] at h
      rw [put, if_neg fun heq => h.1 heq.symm, ih h.2, List.cons_append]

end Datum

/-! ### Words -/

/-- Whether a text consists of digits, of at least one. -/
def isDigits (cs : List Char) : Bool := !cs.isEmpty && cs.all Char.isDigit

/-- Whether a text is a number without a sign, a fraction or an exponent: no zero stands in front of
other digits. -/
def isWhole (cs : List Char) : Bool := isDigits cs && (cs == ['0'] || cs.head? != some '0')

/-- Whether a text consists of digits after an optional sign. -/
def isSigned : List Char → Bool
  | '+' :: cs => isDigits cs
  | '-' :: cs => isDigits cs
  | cs => isDigits cs

/-- Whether a text is an exponent. -/
def isExponent : List Char → Bool
  | c :: cs => (c == 'e' || c == 'E') && isSigned cs
  | [] => false

/-- Whether a text is a fraction, an exponent, or a fraction with an exponent. -/
def isFraction : List Char → Bool
  | '.' :: cs =>
    !(cs.takeWhile Char.isDigit).isEmpty &&
      (let rest := cs.dropWhile Char.isDigit
       rest.isEmpty || isExponent rest)
  | cs => isExponent cs

/-- A text without the minus sign in front. -/
def dropMinus : List Char → List Char
  | '-' :: cs => cs
  | cs => cs

/-- The number that a word is. -/
def number? (word : List Char) : Option Datum :=
  let unsigned := dropMinus word
  let whole := unsigned.takeWhile Char.isDigit
  let rest := unsigned.dropWhile Char.isDigit
  if !isWhole whole then none
  else if rest.isEmpty then
    let n : Int := Nat.ofDigitChars 10 whole 0
    some (.integer (if unsigned = word then n else -n))
  else if isFraction rest then some (.number (String.ofList word))
  else none

/-- The words that are no numbers of digits. -/
def names : List (List Char × Datum) :=
  [("null".toList, .null), ("true".toList, .bool true), ("false".toList, .bool false),
    ("NaN".toList, .number "NaN"), ("Infinity".toList, .number "Infinity"),
    ("-Infinity".toList, .number "-Infinity")]

/-- What a word denotes. -/
def word? (word : List Char) : Option Datum := (number? word).or (names.lookup word)

/-- Whether a character may stand in a word. -/
def isWordPart (c : Char) : Bool := c.isAlphanum || c == '+' || c == '-' || c == '.'

/-! ### Texts -/

/-- What the character after a backslash stands for. -/
def escaped? (c : Char) : Option Char :=
  [('"', '"'), ('\\', '\\'), ('/', '/'), ('b', '\x08'), ('f', '\x0c'), ('n', '\n'), ('r', '\r'),
    ('t', '\t')].lookup c

/-- The code point that is written in hexadecimal digits. -/
def hexPoint? (digits : List Char) : Option CodePoint :=
  (digits.mapM (Text.digitInBase? 16)).bind fun values => CodePoint.ofNat? (Text.ofDigits 16 values)

/-- A code point in front of others: the two halves of a pair are one character. -/
def consPoint : CodePoint → List CodePoint → List CodePoint
  | .leading a, .trailing b :: points => .char (CodePoint.ofPair a b) :: points
  | point, points => point :: points

/-- The text up to the next quote, and what follows the quote. -/
def takeText? : List Char → Option (List CodePoint × List Char)
  | [] => none
  | '"' :: rest => some ([], rest)
  | '\\' :: 'u' :: a :: b :: c :: d :: rest => do
    let point ← hexPoint? [a, b, c, d]
    let (points, after) ← takeText? rest
    return (consPoint point points, after)
  | '\\' :: c :: rest => do
    let char ← escaped? c
    let (points, after) ← takeText? rest
    return (.char char :: points, after)
  | c :: rest =>
    if c.toNat < 0x20 then none
    else do
      let (points, after) ← takeText? rest
      return (.char c :: points, after)

/-- What follows a text between quotes is shorter than all that follows its first quote. -/
theorem length_takeText?_lt {cs after : List Char} {points : List CodePoint}
    (h : takeText? cs = some (points, after)) : after.length < cs.length := by
  induction cs using takeText?.induct generalizing points with
  | case1 => simp [takeText?] at h
  | case2 rest =>
      simp only [takeText?, Option.some.injEq, Prod.mk.injEq] at h
      simp [h.2]
  | case3 a b c d rest ih =>
      simp only [takeText?, Option.bind_eq_bind, Option.bind_eq_some_iff, Prod.exists] at h
      obtain ⟨point, -, tail, rest', htail, heq⟩ := h
      simp only [pure, Option.some.injEq, Prod.mk.injEq] at heq
      have := ih (heq.2 ▸ htail)
      simp only [List.length_cons]
      omega
  | case4 c rest hno ih =>
      rw [takeText?.eq_4 c rest hno] at h
      simp only [Option.bind_eq_bind, Option.bind_eq_some_iff, Prod.exists] at h
      obtain ⟨char, -, tail, rest', htail, heq⟩ := h
      simp only [pure, Option.some.injEq, Prod.mk.injEq] at heq
      have := ih (heq.2 ▸ htail)
      simp only [List.length_cons]
      omega
  | case5 c rest hquote hunit hescape hcontrol =>
      rw [takeText?.eq_5 c rest hquote hunit hescape, if_pos hcontrol] at h
      simp at h
  | case6 c rest hquote hunit hescape hcontrol ih =>
      rw [takeText?.eq_5 c rest hquote hunit hescape, if_neg hcontrol] at h
      simp only [Option.bind_eq_bind, Option.bind_eq_some_iff, Prod.exists] at h
      obtain ⟨tail, rest', htail, heq⟩ := h
      simp only [pure, Option.some.injEq, Prod.mk.injEq] at heq
      have := ih (heq.2 ▸ htail)
      simp only [List.length_cons]
      omega

/-! ### Tokens -/

/-- A part of a text that is read as one. -/
inductive Token where
  /-- The start of a list. -/
  | openArray
  /-- The end of a list. -/
  | closeArray
  /-- The start of an object. -/
  | openObject
  /-- The end of an object. -/
  | closeObject
  /-- What stands between items, and between members. -/
  | comma
  /-- What stands between a key and its value. -/
  | colon
  /-- A text between quotes. -/
  | quote (points : List CodePoint)
  /-- A number or a name. -/
  | word (value : Datum)

/-- Whether a character may stand anywhere between tokens. -/
def isSpace (c : Char) : Bool := c == ' ' || c == '\t' || c == '\n' || c == '\r'

/-- The tokens that are one character. -/
def mark? (c : Char) : Option Token :=
  [('[', .openArray), (']', .closeArray), ('{', .openObject), ('}', .closeObject), (',', .comma),
    (':', .colon)].lookup c

/-- The token that a text starts with, and what follows it. -/
def takeToken? : List Char → Option (Token × List Char)
  | [] => none
  | c :: rest =>
    match mark? c with
    | some token => some (token, rest)
    | none =>
      if c = '"' then (takeText? rest).map fun (points, after) => (.quote points, after)
      else
        (word? ((c :: rest).takeWhile isWordPart)).map fun value =>
          (.word value, (c :: rest).dropWhile isWordPart)

theorem word?_nil : word? [] = none := rfl

/-- What follows a token is shorter than the text that starts with it. -/
theorem length_takeToken?_lt {cs after : List Char} {token : Token}
    (h : takeToken? cs = some (token, after)) : after.length < cs.length := by
  cases cs with
  | nil => simp [takeToken?] at h
  | cons c rest =>
      simp only [takeToken?] at h
      split at h
      · simp only [Option.some.injEq, Prod.mk.injEq] at h
        simp [h.2]
      split at h
      · obtain ⟨⟨points, after'⟩, htext, heq⟩ := Option.map_eq_some_iff.1 h
        simp only [Prod.mk.injEq] at heq
        have hlt := length_takeText?_lt htext
        rw [heq.2] at hlt
        exact Nat.lt_succ_of_lt hlt
      · obtain ⟨value, hword, heq⟩ := Option.map_eq_some_iff.1 h
        simp only [Prod.mk.injEq] at heq
        by_cases hc : isWordPart c = true
        · have hle := (List.dropWhile_sublist isWordPart (l := rest)).length_le
          rw [← heq.2, List.dropWhile_cons_of_pos hc]
          exact Nat.lt_succ_of_le hle
        · rw [List.takeWhile_cons_of_neg hc, word?_nil] at hword
          simp at hword

/-- The tokens of a text. -/
def tokens? : List Char → Option (List Token)
  | [] => some []
  | c :: rest =>
    if isSpace c then tokens? rest
    else match _h : takeToken? (c :: rest) with
      | none => none
      | some (token, after) => (tokens? after).map (token :: ·)
termination_by cs => cs.length
decreasing_by
  · exact Nat.lt_succ_self _
  · exact length_takeToken?_lt _h

@[simp] theorem tokens?_nil : tokens? [] = some [] := by rw [tokens?]

/-- Blanks before a token do not matter. -/
theorem tokens?_space {c : Char} (h : isSpace c = true) (rest : List Char) :
    tokens? (c :: rest) = tokens? rest := by
  rw [tokens?, if_pos h]

/-- The tokens of a text that does not start with a blank. -/
theorem tokens?_of_takeToken? {c : Char} {rest after : List Char} {token : Token}
    (hspace : isSpace c = false) (h : takeToken? (c :: rest) = some (token, after)) :
    tokens? (c :: rest) = (tokens? after).map (token :: ·) := by
  rw [tokens?, if_neg (by simp [hspace])]
  split
  · rename_i hnone
    rw [h] at hnone
    simp at hnone
  · rename_i token' after' hsome
    rw [h] at hsome
    simp only [Option.some.injEq, Prod.mk.injEq] at hsome
    rw [hsome.1, hsome.2]

/-- A text that starts with a token of one character. -/
theorem tokens?_mark {c : Char} {token : Token} (h : mark? c = some token)
    (hspace : isSpace c = false) (rest : List Char) :
    tokens? (c :: rest) = (tokens? rest).map (token :: ·) :=
  tokens?_of_takeToken? hspace (by rw [takeToken?, h])

/-- A text that starts with a text between quotes. -/
theorem tokens?_quote {rest after : List Char} {points : List CodePoint}
    (h : takeText? rest = some (points, after)) :
    tokens? ('"' :: rest) = (tokens? after).map (.quote points :: ·) := by
  refine tokens?_of_takeToken? rfl ?_
  have hmark : mark? '"' = none := rfl
  rw [takeToken?, hmark, if_pos rfl, h]
  rfl

/-- Characters with a property, and what follows them, come apart where the property ends. -/
theorem takeWhile_dropWhile_append {p : Char → Bool} {cs rest : List Char}
    (hcs : ∀ c ∈ cs, p c = true) (hrest : ∀ c ∈ rest.head?, p c = false) :
    (cs ++ rest).takeWhile p = cs ∧ (cs ++ rest).dropWhile p = rest := by
  rw [List.takeWhile_append_of_pos hcs, List.dropWhile_append_of_pos hcs]
  obtain _ | ⟨c, rest⟩ := rest
  · simp
  · simp [hrest c rfl]

/-- A text does not go on with a word. -/
def EndsWord (rest : List Char) : Prop := ∀ c ∈ rest.head?, isWordPart c = false

/-- A text that starts with a word. -/
theorem tokens?_word {word rest : List Char} {value : Datum} (h : word? word = some value)
    (hparts : ∀ c ∈ word, isWordPart c = true) (hrest : EndsWord rest) :
    tokens? (word ++ rest) = (tokens? rest).map (.word value :: ·) := by
  obtain _ | ⟨c, cs⟩ := word
  · simp [word?_nil] at h
  · have hc : isWordPart c = true := hparts c (List.mem_cons_self ..)
    obtain ⟨htake, hdrop⟩ := takeWhile_dropWhile_append hparts hrest
    -- a character of a word is no blank, no mark and no quote
    have hother : ∀ d : Char, isWordPart d = false → c ≠ d := by
      rintro d hd rfl
      simp [hd] at hc
    have hspace : isSpace c = false := by
      simp [isSpace, hother ' ' rfl, hother '\t' rfl, hother '\n' rfl, hother '\r' rfl]
    have hmark : mark? c = none := by
      simp [mark?, List.lookup_cons, beq_false_of_ne (hother '[' rfl),
        beq_false_of_ne (hother ']' rfl), beq_false_of_ne (hother '{' rfl),
        beq_false_of_ne (hother '}' rfl), beq_false_of_ne (hother ',' rfl),
        beq_false_of_ne (hother ':' rfl)]
    have hdefault : takeToken? (c :: (cs ++ rest)) =
        (word? ((c :: cs ++ rest).takeWhile isWordPart)).map fun value =>
          (.word value, (c :: cs ++ rest).dropWhile isWordPart) := by
      simp only [takeToken?, hmark, if_neg (hother '"' rfl), List.cons_append]
    rw [htake, hdrop, h, Option.map_some] at hdefault
    exact tokens?_of_takeToken? hspace hdefault

/-! ### The machine -/

/-- What may follow in a text. -/
inductive Stage where
  /-- A value. -/
  | value
  /-- The first item of a list, or its end. -/
  | item
  /-- The first key of an object, or its end. -/
  | member
  /-- A key. -/
  | key
  /-- The colon after a key. -/
  | colon (key : List CodePoint)
  /-- What comes after a value. -/
  | after (value : Datum)

/-- What is open around a place in a text. -/
inductive Frame where
  /-- A list with the items before the place. -/
  | items (before : List Datum)
  /-- An object with the members before the place. -/
  | members (before : List (List CodePoint × Datum))
  /-- The value of a key in an object with the members before it. -/
  | member (before : List (List CodePoint × Datum)) (key : List CodePoint)

/-- A reader that has come to some place in a text. -/
structure Reader where
  /-- What may follow. -/
  stage : Stage
  /-- What is open, from the inside out. -/
  frames : List Frame

namespace Reader

/-- Starts a value. -/
def startValue (frames : List Frame) : Token → Option Reader
  | .word value => some ⟨.after value, frames⟩
  | .quote points => some ⟨.after (.text points), frames⟩
  | .openArray => some ⟨.item, .items [] :: frames⟩
  | .openObject => some ⟨.member, .members [] :: frames⟩
  | _ => none

/-- Goes on after a value. -/
def finishValue (value : Datum) : List Frame → Token → Option Reader
  | .items before :: frames, .comma => some ⟨.value, .items (before ++ [value]) :: frames⟩
  | .items before :: frames, .closeArray => some ⟨.after (.array (before ++ [value])), frames⟩
  | .member before key :: frames, .comma =>
    some ⟨.key, .members (Datum.put key value before) :: frames⟩
  | .member before key :: frames, .closeObject =>
    some ⟨.after (.object (Datum.put key value before)), frames⟩
  | _, _ => none

/-- Reads a token. -/
def step : Reader → Token → Option Reader
  | ⟨.value, frames⟩, token => startValue frames token
  | ⟨.item, .items [] :: frames⟩, .closeArray => some ⟨.after (.array []), frames⟩
  | ⟨.item, frames⟩, token => startValue frames token
  | ⟨.member, .members [] :: frames⟩, .closeObject => some ⟨.after (.object []), frames⟩
  | ⟨.member, frames⟩, .quote key => some ⟨.colon key, frames⟩
  | ⟨.key, frames⟩, .quote key => some ⟨.colon key, frames⟩
  | ⟨.colon key, .members before :: frames⟩, .colon =>
    some ⟨.value, .member before key :: frames⟩
  | ⟨.after value, frames⟩, token => finishValue value frames token
  | _, _ => none

/-- Reads tokens in order. -/
def run (reader : Reader) (tokens : List Token) : Option Reader := tokens.foldlM step reader

/-- The value that a reader has read, if nothing is open. -/
def result? : Reader → Option Datum
  | ⟨.after value, []⟩ => some value
  | _ => none

@[simp] theorem run_nil (reader : Reader) : reader.run [] = some reader := rfl

@[simp] theorem run_cons (reader : Reader) (token : Token) (tokens : List Token) :
    reader.run (token :: tokens) = (reader.step token).bind fun next => next.run tokens := rfl

end Reader

/-- **What a text denotes**, if it is a JSON text. -/
def read (text : String) : Option Datum := do
  let tokens ← tokens? text.toList
  let reader ← Reader.run ⟨.value, []⟩ tokens
  reader.result?

end TeachingTree.JsonText

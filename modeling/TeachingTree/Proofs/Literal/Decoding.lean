/-
**What tokens of literals are decoded to.**

A token that is not raw is decoded to what its pieces are read as, or to its body as it is written
if one of them cannot be read.  Without escapes that have hexadecimal digits after an `x` this is
the text that the token was written for, whatever encoding and quote it has.  Of those escapes the
ones with exactly two digits do no harm.  With any other one the text is too long: the digits beyond
the second stand for themselves, and a single digit leaves the whole body undecoded.

A raw token is decoded to the text between its delimiters.  The delimiter is what comes before the
first parenthesis, so it only matters that the delimiter has none.  What has no quotes is no token,
and stands for itself.

Main definitions:

* `Piece.isExact` — whether an escape has the two digits that are taken.

Main results:

* `decodeQuoted_quoted` — the value of a token from that of its pieces;
* `decodeQuoted_spelling` — **decoding undoes encoding**, for escapes without an `x` and for raw
  tokens;
* `decodeQuoted_hexadecimal` — **decoding gives the characters exactly if the escapes with an `x`
  have two digits**.
-/

import TeachingTree.Proofs.Literal.Escape

set_option relaxedAutoImplicit false
set_option autoImplicit false

namespace TeachingTree.Literal

open Text

/-! ### Tokens taken apart -/

section Tokens

variable {encoding : String} {quote : Char}

theorem ofText?_quoted (hencoding : encoding ∈ encodingNames)
    (hquote : isQuote quote = true) (body : List Char) :
    QuotedToken.ofText? (quoted encoding quote body).toList =
      some ⟨false, quote, body ++ [quote]⟩ := by
  rw [quoted, String.toList_ofList]
  simp only [encodingNames, List.mem_cons, List.not_mem_nil, or_false] at hencoding
  rcases hencoding with rfl | rfl | rfl | rfl | rfl <;>
    rcases eq_of_isQuote hquote with rfl | rfl <;> rfl

theorem ofText?_rawQuoted (hencoding : encoding ∈ encodingNames)
    (delimiter body : List Char) :
    QuotedToken.ofText? (rawQuoted encoding delimiter body).toList =
      some ⟨true, '"', delimiter ++ '(' :: (body ++ ')' :: (delimiter ++ ['"']))⟩ := by
  rw [rawQuoted, String.toList_ofList]
  simp only [encodingNames, List.mem_cons, List.not_mem_nil, or_false] at hencoding
  rcases hencoding with rfl | rfl | rfl | rfl | rfl <;> rfl

theorem body_append (isRaw : Bool) (body : List Char) :
    QuotedToken.body ⟨isRaw, quote, body ++ [quote]⟩ = body := by
  simp [QuotedToken.body]

/-- What is between the first parenthesis and the last one, if the delimiter has none. -/
theorem rawText_delimited {delimiter : List Char} (h : '(' ∉ delimiter) (body : List Char) :
    rawText (delimiter ++ '(' :: (body ++ ')' :: delimiter)) = body := by
  have hbefore : (delimiter ++ '(' :: (body ++ ')' :: delimiter)).takeWhile (· != '(') =
      delimiter := by
    have hnone : ∀ c ∈ delimiter, (c != '(') = true := by
      intro c hc
      rw [bne_iff_ne]
      rintro rfl
      exact h hc
    rw [List.takeWhile_append_of_pos hnone]
    simp
  have hlength : (body ++ ')' :: delimiter).length - (delimiter.length + 1) = body.length := by
    simp only [List.length_append, List.length_cons]
    omega
  simp only [rawText, hbefore, List.drop_left, hlength, List.take_left]

/-- The value of a token is what its pieces are read as, or else its body. -/
theorem decodeQuoted_quoted (names : CharacterNames) (encoding : String) (quote : Char)
    (pieces : List Piece) (hencoding : encoding ∈ encodingNames) (hquote : isQuote quote = true)
    (h : isSpelling quote pieces = true) :
    decodeQuoted names (quoted encoding quote (textOf pieces)) =
      .ok (.text (((readingOf? pieces).getD (textOf pieces)).map .char)) := by
  have hread := (reads_textOf names hquote h).readExpression_eq hquote
  rw [decodeQuoted, ofText?_quoted hencoding hquote]
  simp only [body_append, Bool.false_eq_true, if_false, List.cons_append, hread]
  cases readingOf? pieces <;> rfl

end Tokens

/-! ### Texts of single tokens -/

/-- A text without quotes is no token of a literal. -/
theorem QuotedToken.ofText?_eq_none {cs : List Char} (h : cs.any isQuote = false) :
    QuotedToken.ofText? cs = none := by
  rw [QuotedToken.ofText?, List.findSome?_eq_none_iff]
  intro encoding _
  rw [Option.bind_eq_none_iff]
  intro rest hrest
  have hquotes : ∀ c ∈ rest, isQuote c = false := by
    intro c hc
    rw [dropStart?_eq_some_iff.1 hrest, List.any_append, Bool.or_eq_false_iff] at h
    exact eq_false_of_ne_true (List.any_eq_false.1 h.2 c hc)
  unfold QuotedToken.ofQuoted?
  split
  · rename_i c rest
    rw [if_neg (by simp [hquotes c (by simp)])]
  · rename_i c rest _
    rw [if_neg (by simp [hquotes c (by simp)])]
  · rfl

/-- The text of a single token is its value, if that is a text. -/
theorem decodePieces_singleton {names : CharacterNames} {text : String} {points : List CodePoint}
    (h : decodeQuoted names text = .ok (.text points)) :
    decodePieces names [text] = .ok points := by
  have hpieces : decodePieces names [text] = joinPieces 0 [.text points] := by
    simp only [decodePieces, List.mapM_cons, List.mapM_nil, h]
    rfl
  rw [hpieces]
  simp [joinPieces, Constant.text?, Except.map]

/-- A text without quotes stands for itself. -/
theorem decodePieces_of_noQuotes (names : CharacterNames) {text : String}
    (h : text.toList.any isQuote = false) :
    decodePieces names [text] = .ok (CodePoint.ofString text) := by
  refine decodePieces_singleton ?_
  rw [decodeQuoted, QuotedToken.ofText?_eq_none h]
  rfl

/-! ### Escapes of two digits -/

/-- Whether an escape has the two digits that are taken, if it has an `x`. -/
def Piece.isExact : Piece → Bool
  | hexadecimal digits => digits.length == 2
  | _ => true

theorem Piece.reading?_of_isExact {piece : Piece} (h : piece.isExact = true) :
    piece.reading? = some [piece.char] := by
  match piece with
  | plain _ | simple _ | octal _ | universal _ _ => rfl
  | hexadecimal [] | hexadecimal [_] => cases h
  | hexadecimal [_, _] => rfl
  | hexadecimal (_ :: _ :: _ :: _) => simp [isExact] at h

/-- A piece is read as one character at least, and as one only if it is exact. -/
theorem Piece.length_of_reading? {piece : Piece} {out : List Char} (h : piece.reading? = some out) :
    0 < out.length ∧ (out.length = 1 → piece.isExact = true) := by
  match piece with
  | plain _ | simple _ | octal _ | universal _ _ =>
      cases h
      exact ⟨Nat.one_pos, fun _ => rfl⟩
  | hexadecimal [] | hexadecimal [_] => cases h
  | hexadecimal (_ :: _ :: more) =>
      cases h
      simp [isExact]

theorem Piece.length_text (piece : Piece) :
    0 < piece.text.length ∧ (piece.reading? = none → 1 < piece.text.length) := by
  cases piece <;> simp [text, reading?]

theorem readingOf?_of_isExact {pieces : List Piece} (h : pieces.all Piece.isExact = true) :
    readingOf? pieces = some (pieces.map Piece.char) := by
  induction pieces with
  | nil => rfl
  | cons piece pieces ih =>
      rw [List.all_cons, Bool.and_eq_true] at h
      rw [readingOf?, Piece.reading?_of_isExact h.1, ih h.2]
      rfl

/-- A text that can be read has one character for each piece at least, and no more only if all are
exact. -/
theorem length_of_readingOf? {pieces : List Piece} {out : List Char}
    (h : readingOf? pieces = some out) :
    pieces.length ≤ out.length ∧
      (out.length = pieces.length → pieces.all Piece.isExact = true) := by
  induction pieces generalizing out with
  | nil => simp
  | cons piece pieces ih =>
      simp only [readingOf?, Option.bind_eq_some_iff, Option.map_eq_some_iff] at h
      obtain ⟨first, hfirst, others, hothers, rfl⟩ := h
      obtain ⟨hfirstLength, hexact⟩ := Piece.length_of_reading? hfirst
      obtain ⟨hothersLength, hallExact⟩ := ih hothers
      simp only [List.length_append, List.length_cons, List.all_cons, Bool.and_eq_true]
      constructor
      · omega
      · intro heq
        exact ⟨hexact (by omega), hallExact (by omega)⟩

/-- A text is not shorter than its pieces, and longer if it cannot be read. -/
theorem length_textOf (pieces : List Piece) :
    pieces.length ≤ (textOf pieces).length ∧
      (readingOf? pieces = none → pieces.length < (textOf pieces).length) := by
  induction pieces with
  | nil => simp [readingOf?]
  | cons piece pieces ih =>
      obtain ⟨hfirst, hbroken⟩ := piece.length_text
      simp only [textOf_cons, List.length_append, List.length_cons]
      constructor
      · omega
      · intro hnone
        cases hreading : piece.reading? with
        | none =>
            have hlonger := hbroken hreading
            omega
        | some out =>
            have hrest : readingOf? pieces = none := by simpa [readingOf?, hreading] using hnone
            have hlonger := ih.2 hrest
            omega

/-- A token has one character for each piece exactly if all pieces are exact. -/
theorem length_getD_readingOf? (pieces : List Piece) :
    ((readingOf? pieces).getD (textOf pieces)).length = pieces.length ↔
      pieces.all Piece.isExact = true := by
  constructor
  · intro h
    cases hreading : readingOf? pieces with
    | none =>
        rw [hreading, Option.getD_none] at h
        have hlonger := (length_textOf pieces).2 hreading
        omega
    | some out =>
        rw [hreading, Option.getD_some] at h
        exact (length_of_readingOf? hreading).2 h
  · intro h
    rw [readingOf?_of_isExact h, Option.getD_some, List.length_map]

/-! ### Decoding and encoding -/

/-- **Decoding undoes encoding.**  A text is what a token is decoded to if the token has the text
between its quotes, with characters as they are or as escapes without an `x`, and also if it has the
text between a delimiter and parentheses. -/
theorem decodeQuoted_spelling (names : CharacterNames) {encoding : String}
    (hencoding : encoding ∈ encodingNames) (s : String) :
    (∀ quote pieces, isQuote quote = true → isSpelling quote pieces = true →
      pieces.any Piece.isHexadecimal = false → pieces.map Piece.char = s.toList →
      decodeQuoted names (quoted encoding quote (textOf pieces)) = .ok (.ofString s)) ∧
    ∀ delimiter, '(' ∉ delimiter →
      decodeQuoted names (rawQuoted encoding delimiter s.toList) = .ok (.ofString s) := by
  constructor
  · intro quote pieces hquote h hother hchars
    have hexact : pieces.all Piece.isExact = true := by
      rw [List.all_eq_true]
      intro piece hpiece
      have hnone := List.any_eq_false.1 hother piece hpiece
      cases piece with
      | hexadecimal _ => exact absurd rfl hnone
      | _ => rfl
    rw [decodeQuoted_quoted names encoding quote pieces hencoding hquote h,
      readingOf?_of_isExact hexact, Option.getD_some, hchars]
    rfl
  · intro delimiter hdelimiter
    have hbody : delimiter ++ '(' :: (s.toList ++ ')' :: (delimiter ++ ['"'])) =
        (delimiter ++ '(' :: (s.toList ++ ')' :: delimiter)) ++ ['"'] := by simp
    rw [decodeQuoted, ofText?_rawQuoted hencoding, hbody]
    simp only [body_append, if_true, rawText_delimited hdelimiter]
    rfl

/-- Backslashes in front of question marks, an octal number and a letter beyond ASCII between
quotes, and a quote, parentheses and a backslash between a delimiter and its parentheses. -/
theorem decodeQuoted_spelling_marks :
    decodeQuoted .empty (quoted "u8" '"' "\\\\?\\?\\7\\u00e9".toList) =
        .ok (.ofString "\\??\x07é") ∧
      decodeQuoted .empty (rawQuoted "L" "ab".toList ")\"(\\".toList) = .ok (.ofString ")\"(\\") :=
  ⟨(decodeQuoted_spelling .empty (by decide) "\\??\x07é").1 '"'
      [.simple '\\', .plain '?', .simple '?', .octal ['7'], .universal false "00e9".toList]
      (by decide) (by decide) (by decide) (by decide),
    (decodeQuoted_spelling .empty (by decide) ")\"(\\").2 "ab".toList (by decide)⟩

/-- **Decoding gives the characters of a token exactly if its escapes with an `x` have two digits**,
and only then it gives as many characters as there are. -/
theorem decodeQuoted_hexadecimal (names : CharacterNames) (encoding : String) (quote : Char)
    (pieces : List Piece) (hencoding : encoding ∈ encodingNames) (hquote : isQuote quote = true)
    (h : isSpelling quote pieces = true) :
    let value := (readingOf? pieces).getD (textOf pieces)
    decodeQuoted names (quoted encoding quote (textOf pieces)) = .ok (.text (value.map .char)) ∧
      (value = pieces.map Piece.char ↔ pieces.all Piece.isExact = true) ∧
      (value.length = pieces.length ↔ pieces.all Piece.isExact = true) := by
  intro value
  have hlength : value.length = pieces.length ↔ pieces.all Piece.isExact = true :=
    length_getD_readingOf? pieces
  refine ⟨decodeQuoted_quoted names encoding quote pieces hencoding hquote h, ⟨?_, ?_⟩, hlength⟩
  · intro heq
    rw [← hlength, heq, List.length_map]
  · intro hexact
    simp only [value, readingOf?_of_isExact hexact, Option.getD_some]

/-- An escape with two digits is one character, also in front of a letter. -/
theorem decodeQuoted_hexadecimal_exact :
    decodeQuoted .empty (quoted "" '"' "\\x41g".toList) = .ok (.text ("Ag".toList.map .char)) :=
  (decodeQuoted_hexadecimal .empty "" '"' [.hexadecimal "41".toList, .plain 'g'] (by decide)
    (by decide) (by decide)).1

/-- Escapes with an `x` do not always give one character: with a single digit the body is left as it
is, and of three digits the last one is left over. -/
theorem exists_hexadecimal_undecoded :
    (isSpelling '\'' [.hexadecimal ['4']] = true ∧
        (Piece.hexadecimal ['4']).char = '\x04' ∧
        decodeQuoted .empty (quoted "" '\'' (textOf [.hexadecimal ['4']])) =
          .ok (.text ("\\x4".toList.map .char))) ∧
      isSpelling '\'' [.hexadecimal "041".toList] = true ∧
        (Piece.hexadecimal "041".toList).char = 'A' ∧
        decodeQuoted .empty (quoted "" '\'' (textOf [.hexadecimal "041".toList])) =
          .ok (.text ("\x041".toList.map .char)) :=
  ⟨⟨by decide, by decide, decodeQuoted_quoted .empty "" '\'' _ (by decide) (by decide) (by decide)⟩,
    by decide, by decide, decodeQuoted_quoted .empty "" '\'' _ (by decide) (by decide) (by decide)⟩

end TeachingTree.Literal

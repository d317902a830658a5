/-
**What escapes between quotes are read as.**

An escape of the pieces that a text is written with is read as the character that is meant, except
for those with hexadecimal digits after an `x`: of these digits exactly two are taken.  With a
single digit the escape cannot be read, and with more than two the others stand for themselves.

Before the text is read, a question mark loses the backslash in front of it.  This backslash may
also be the second one of an escape.  The reading is the same even so: what is left is a backslash
in front of a question mark, which is no escape and stands for both.

Main definitions:

* `Piece.reading?`, `readingOf?` — what pieces are read as, if they are.

Main results:

* `Reads.piece` — what one piece is read as;
* `reads_textOf` — **what pieces are read as**.
-/

import TeachingTree.Literal.Quoted
import TeachingTree.Proofs.Literal.Reading

set_option relaxedAutoImplicit false
set_option autoImplicit false

namespace TeachingTree.Literal

open Text

/-! ### Digits -/

/-- No character beyond ASCII is a digit in any base. -/
theorem alphanumericValue?_eq_none {c : Char} (h : 0x80 ≤ c.toNat) :
    alphanumericValue? c = none := by
  have hbeyond : ∀ last : Char, last.toNat < 0x80 → ¬c ≤ last := by
    intro last hlast hle
    have hnat : c.toNat ≤ last.toNat := UInt32.le_iff_toNat_le.1 hle
    omega
  simp [alphanumericValue?, hbeyond '9' (by decide), hbeyond 'z' (by decide),
    hbeyond 'Z' (by decide)]

section Digits

variable {base : Nat} {isDigit : Char → Bool}

/-- The digits of a base are in a class that has all of them which are in ASCII. -/
theorem isDigit_of_isSome
    (hascii : ∀ n < 0x80, (digitInBase? base (Char.ofNat n)).isSome = true →
      isDigit (Char.ofNat n) = true)
    {c : Char} (h : (digitInBase? base c).isSome = true) : isDigit c = true := by
  have hc : c.toNat < 0x80 := by
    refine Nat.lt_of_not_le fun hbeyond => ?_
    simp [digitInBase?, alphanumericValue?_eq_none hbeyond] at h
  have hdigit := hascii c.toNat hc
  rw [Char.ofNat_toNat] at hdigit
  exact hdigit h

/-- Digits are read as the number that they denote. -/
theorem digitsValue_eq_numeral {digits : List Char}
    (h : ∀ d ∈ digits, digitInBase? base d = some (digitLetters.idxOf d.toLower)) :
    digitsValue base digits = numeral base digits := by
  have hvalues : digits.filterMap (digitInBase? base) =
      digits.map fun d => digitLetters.idxOf d.toLower := by
    induction digits with
    | nil => rfl
    | cons d digits ih =>
        rw [List.filterMap_cons_some (h d List.mem_cons_self),
          ih fun d' hd' => h d' (List.mem_cons_of_mem _ hd'), List.map_cons]
  rw [digitsValue, ofDigits, numeral, hvalues, List.foldl_map]

end Digits

/-- What is checked for all octal digits. -/
theorem of_isOctalDigit {p : Char → Bool} (hall : "01234567".toList.all p = true) {c : Char}
    (h : isOctalDigit c = true) : p c = true :=
  List.all_eq_true.1 hall c (List.contains_iff_mem.1 h)

/-- What is checked for all hexadecimal digits. -/
theorem of_isHexDigit {p : Char → Bool} (hall : "0123456789abcdefABCDEF".toList.all p = true)
    {c : Char} (h : isHexDigit c = true) : p c = true :=
  List.all_eq_true.1 hall c (List.contains_iff_mem.1 h)

theorem digitInBase?_of_isOctalDigit {c : Char} (h : isOctalDigit c = true) :
    digitInBase? 8 c = some (digitLetters.idxOf c.toLower) := by
  have hvalue := of_isOctalDigit (p := fun c =>
    digitInBase? 8 c == some (digitLetters.idxOf c.toLower)) (by decide) h
  exact beq_iff_eq.1 hvalue

theorem digitInBase?_of_isHexDigit {c : Char} (h : isHexDigit c = true) :
    digitInBase? 16 c = some (digitLetters.idxOf c.toLower) := by
  have hvalue := of_isHexDigit (p := fun c =>
    digitInBase? 16 c == some (digitLetters.idxOf c.toLower)) (by decide) h
  exact beq_iff_eq.1 hvalue

theorem isOctal_eq (c : Char) : isOctal c = isOctalDigit c := by
  rw [Bool.eq_iff_iff]
  constructor
  · exact isDigit_of_isSome (by decide)
  · intro h
    rw [isOctal, digitInBase?_of_isOctalDigit h, Option.isSome_some]

theorem isSome_digitInBase?_eq (c : Char) : (digitInBase? 16 c).isSome = isHexDigit c := by
  rw [Bool.eq_iff_iff]
  constructor
  · exact isDigit_of_isSome (by decide)
  · intro h
    rw [digitInBase?_of_isHexDigit h, Option.isSome_some]

/-- A quote, a backslash and a line end are no digits. -/
theorem isPlain_of_isHexDigit {quote c : Char} (hquote : isQuote quote = true)
    (h : isHexDigit c = true) : isPlain quote c = true := by
  rcases eq_of_isQuote hquote with rfl | rfl <;> exact of_isHexDigit (by decide) h

theorem isHexDigit_of_isOctalDigit {c : Char} (h : isOctalDigit c = true) : isHexDigit c = true :=
  of_isOctalDigit (by decide) h

/-- Two digits are a byte at most. -/
theorem numeral_lt_of_two {a b : Char} (ha : isHexDigit a = true) (hb : isHexDigit b = true) :
    numeral 16 [a, b] < 0x100 := by
  have hdigit : ∀ {d : Char}, isHexDigit d = true → digitLetters.idxOf d.toLower < 16 := by
    intro d hd
    have hvalue := of_isHexDigit (p := fun d => digitLetters.idxOf d.toLower < 16) (by decide) hd
    exact of_decide_eq_true hvalue
  have hfirst := hdigit ha
  have hsecond := hdigit hb
  simp only [numeral, List.foldl_cons, List.foldl_nil]
  omega

/-! ### Question marks -/

theorem plainQuestionMarks_plain {c : Char} (h : c ≠ '\\') (cs : List Char) :
    plainQuestionMarks (c :: cs) = c :: plainQuestionMarks cs := by
  rw [plainQuestionMarks]
  rintro rest rfl
  exact absurd rfl h

theorem plainQuestionMarks_plains {digits : List Char} (h : ∀ d ∈ digits, d ≠ '\\')
    (cs : List Char) : plainQuestionMarks (digits ++ cs) = digits ++ plainQuestionMarks cs := by
  induction digits with
  | nil => rfl
  | cons d digits ih =>
      rw [List.cons_append, plainQuestionMarks_plain (h d List.mem_cons_self),
        ih fun d' hd' => h d' (List.mem_cons_of_mem _ hd'), List.cons_append]

/-- A backslash stays unless a question mark is behind it. -/
theorem plainQuestionMarks_backslash {cs : List Char} (h : cs.head? ≠ some '?') :
    plainQuestionMarks ('\\' :: cs) = '\\' :: plainQuestionMarks cs := by
  rw [plainQuestionMarks]
  rintro rest - rfl
  exact absurd rfl h

/-- The first character is the same in a class without the question mark. -/
theorem any_head?_plainQuestionMarks {isDigit : Char → Bool} (hmark : isDigit '?' = false)
    {cs : List Char} (h : cs.head?.any isDigit = false) :
    (plainQuestionMarks cs).head?.any isDigit = false := by
  unfold plainQuestionMarks
  split
  · exact h
  · simp [hmark]
  · exact h

/-! ### Escapes -/

section Escapes

variable {digits cs : List Char}

/-- Octal digits are taken up to the third one, or up to what is none. -/
theorem takeEscape?_octal (names : CharacterNames) {d : Char}
    (hdigits : ∀ d' ∈ d :: digits, isOctalDigit d' = true)
    (hlength : digits.length ≤ 2) (hnext : digits.length = 2 ∨ cs.head?.any isOctalDigit = false) :
    takeEscape? names false (d :: (digits ++ cs)) =
      some ([.char (Char.ofNat (numeral 8 (d :: digits)))], cs) := by
  have hall : ∀ d' ∈ digits, isOctal d' = true := fun d' hd' => by
    rw [isOctal_eq, hdigits d' (List.mem_cons_of_mem _ hd')]
  have htaken : ((digits ++ cs).take 2).takeWhile isOctal = digits := by
    rw [List.take_append, List.take_of_length_le hlength, List.takeWhile_append_of_pos hall]
    rcases hnext with htwo | hnone
    · simp [htwo]
    · cases cs with
      | nil => simp
      | cons c cs =>
          have hc : isOctal c = false := by rw [isOctal_eq]; exact hnone
          cases hwidth : 2 - digits.length with
          | zero => simp
          | succ width => simp [hc]
  have hvalue : digitsValue 8 (d :: digits) = numeral 8 (d :: digits) :=
    digitsValue_eq_numeral fun d' hd' => digitInBase?_of_isOctalDigit (hdigits d' hd')
  have hfirst : isOctal d = true := by rw [isOctal_eq, hdigits d List.mem_cons_self]
  rw [takeEscape?, if_pos hfirst, htaken]
  simp [hvalue]

/-- As many hexadecimal digits as are asked for are taken. -/
theorem takeCodePoint?_append {width : Nat} (hlength : digits.length = width)
    (hdigits : digits.all isHexDigit = true) (hvalid : (numeral 16 digits).isValidChar)
    (cs : List Char) : takeCodePoint? width (digits ++ cs) =
      some ([.char (Char.ofNat (numeral 16 digits))], cs) := by
  have hall : digits.all (fun c => (digitInBase? 16 c).isSome) = true := by
    simpa only [isSome_digitInBase?_eq] using hdigits
  have hvalue : digitsValue 16 digits = numeral 16 digits :=
    digitsValue_eq_numeral fun d hd => digitInBase?_of_isHexDigit (List.all_eq_true.1 hdigits d hd)
  subst hlength
  simp [takeCodePoint?, hall, hvalue, CodePoint.ofNat?, hvalid]

/-- A single hexadecimal digit is not enough for two. -/
theorem takeCodePoint?_two_eq_none {d : Char} (hnext : cs.head?.any isHexDigit = false) :
    takeCodePoint? 2 (d :: cs) = none := by
  rw [takeCodePoint?, if_neg]
  rintro ⟨hlength, hall⟩
  cases cs with
  | nil => simp at hlength
  | cons c cs =>
      simp only [List.take_succ_cons, List.take_zero, List.all_cons, isSome_digitInBase?_eq,
        Bool.and_eq_true] at hall
      rw [List.head?_cons, Option.any_some, hall.2.1] at hnext
      cases hnext

end Escapes

/-! ### Pieces -/

/-- What a piece is read as, if it is read at all.  Of the hexadecimal digits after an `x` two are
taken, no more and no less. -/
def Piece.reading? : Piece → Option (List Char)
  | hexadecimal (a :: b :: more) => some (Char.ofNat (numeral 16 [a, b]) :: more)
  | hexadecimal _ => none
  | piece => some [piece.char]

/-- What pieces are read as, if all of them are read. -/
def readingOf? : List Piece → Option (List Char)
  | [] => some []
  | piece :: pieces => piece.reading?.bind fun out => (readingOf? pieces).map (out ++ ·)

section Steps

variable {names : CharacterNames} {quote : Char} {cs : List Char} {value : Option (List Char)}

theorem Reads.plains {digits : List Char} (hdigits : ∀ d ∈ digits, isPlain quote d = true)
    (h : Reads names quote cs value) :
    Reads names quote (digits ++ cs) (value.map (digits ++ ·)) := by
  induction digits with
  | nil => simpa using h
  | cons d digits ih =>
      have hrest := ih fun d' hd' => hdigits d' (List.mem_cons_of_mem _ hd')
      have hcons := hrest.plain (hdigits d List.mem_cons_self)
      rw [Option.map_map] at hcons
      exact hcons

/-- Two backslashes are one, also if a question mark is behind them. -/
theorem Reads.backslashes (h : Reads names quote (plainQuestionMarks cs) value) :
    Reads names quote (plainQuestionMarks ('\\' :: '\\' :: cs)) (value.map ('\\' :: ·)) := by
  have hfirst : ∀ rest : List Char, plainQuestionMarks ('\\' :: '\\' :: rest) =
      '\\' :: plainQuestionMarks ('\\' :: rest) :=
    fun _ => plainQuestionMarks_backslash (by simp)
  rw [hfirst]
  by_cases hmark : cs.head? = some '?'
  · -- the question mark takes the second backslash with it, and the first one is no escape with it
    obtain ⟨cs, rfl⟩ : ∃ rest, cs = '?' :: rest := by
      cases cs with
      | nil => cases hmark
      | cons c cs => exact ⟨cs, by rw [Option.some.inj hmark]⟩
    rw [plainQuestionMarks_plain (by decide)] at h
    cases h with
    | @plain _ _ value _ h =>
        have hread := h.escape (c := '?') [] ['\\', '?'] (by decide) (by simp) rfl
        simpa [plainQuestionMarks, Function.comp_def] using hread
  · rw [plainQuestionMarks_backslash hmark]
    exact h.escape (c := '\\') [] ['\\'] (by decide) (by simp) rfl

/-- A question mark needs no backslash. -/
theorem Reads.questionMark (hquote : isQuote quote = true)
    (h : Reads names quote (plainQuestionMarks cs) value) :
    Reads names quote (plainQuestionMarks ('\\' :: '?' :: cs)) (value.map ('?' :: ·)) := by
  have hplain : isPlain quote '?' = true := by
    rcases eq_of_isQuote hquote with rfl | rfl <;> decide
  exact h.plain hplain

/-- A backslash and a character other than these two, with digits that the escape takes. -/
theorem Reads.escapeDigits {c : Char} (digits out : List Char) (hquote : isQuote quote = true)
    (hc : ¬['\n', '\r', '\x00', '\\', '?'].contains c)
    (hdigits : ∀ d ∈ digits, isHexDigit d = true)
    (htake : takeEscape? names false (c :: (digits ++ plainQuestionMarks cs)) =
      some (out.map .char, plainQuestionMarks cs))
    (h : Reads names quote (plainQuestionMarks cs) value) :
    Reads names quote (plainQuestionMarks ('\\' :: c :: (digits ++ cs)))
      (value.map (out ++ ·)) := by
  simp only [List.contains_cons, List.contains_nil, Bool.or_false, Bool.or_eq_true, beq_iff_eq,
    not_or] at hc
  obtain ⟨hline, hreturn, hnull, hbackslash, hmark⟩ := hc
  have hplain : ∀ d ∈ digits, isPlain quote d = true :=
    fun d hd => isPlain_of_isHexDigit hquote (hdigits d hd)
  rw [plainQuestionMarks_backslash (by simp [hmark]), plainQuestionMarks_plain hbackslash,
    plainQuestionMarks_plains fun d hd => (isPlain_iff.1 (hplain d hd)).2.1]
  exact h.escape digits out (by simp [hline, hreturn, hnull]) hplain htake

theorem Reads.simple {letter : Char} (hquote : isQuote quote = true)
    (hvalid : (Piece.simple letter).isValid quote = true)
    (h : Reads names quote (plainQuestionMarks cs) value) :
    Reads names quote (plainQuestionMarks ('\\' :: letter :: cs))
      (value.map ((Piece.simple letter).char :: ·)) := by
  obtain ⟨⟨c, out⟩, hmem, heq⟩ := List.lookup_isSome_iff.1 hvalid
  obtain rfl : letter = c := beq_iff_eq.1 heq
  -- the question mark and the backslash are the letters that the replacement touches
  by_cases hmark : letter = '?'
  · subst hmark
    exact h.questionMark hquote
  by_cases hbackslash : letter = '\\'
  · subst hbackslash
    exact h.backslashes
  simp only [simpleLetters, List.mem_cons, List.not_mem_nil, or_false, Prod.mk.injEq] at hmem
  rcases hmem with ⟨rfl, -⟩ | ⟨rfl, -⟩ | ⟨rfl, -⟩ | ⟨rfl, -⟩ | ⟨rfl, -⟩ | ⟨rfl, -⟩ | ⟨rfl, -⟩ |
    ⟨rfl, -⟩ | ⟨rfl, -⟩ | ⟨rfl, -⟩ | ⟨rfl, -⟩
  all_goals first
    | exact absurd rfl hmark
    | exact absurd rfl hbackslash
    | exact h.escapeDigits [] [_] hquote (by decide) (by simp) rfl

theorem Reads.octal {digits : List Char} (hquote : isQuote quote = true)
    (hvalid : (Piece.octal digits).isValid quote = true)
    (hnext : (Piece.octal digits).mayPrecede cs = true)
    (h : Reads names quote (plainQuestionMarks cs) value) :
    Reads names quote (plainQuestionMarks ('\\' :: (digits ++ cs)))
      (value.map ((Piece.octal digits).char :: ·)) := by
  cases digits with
  | nil => cases hvalid
  | cons d digits =>
      simp only [Piece.isValid, Bool.and_eq_true, decide_eq_true_eq, List.length_cons,
        List.all_eq_true] at hvalid
      obtain ⟨⟨⟨-, hlength⟩, hdigits⟩, -⟩ := hvalid
      have hend : digits.length = 2 ∨ (plainQuestionMarks cs).head?.any isOctalDigit = false := by
        simp only [Piece.mayPrecede, Bool.or_eq_true, beq_iff_eq, List.length_cons,
          Bool.not_eq_true'] at hnext
        rcases hnext with hthree | hnone
        · exact .inl (by omega)
        · exact .inr (any_head?_plainQuestionMarks (by decide) hnone)
      have htake := takeEscape?_octal names hdigits (by omega) hend
      have hother : ¬['\n', '\r', '\x00', '\\', '?'].contains d := by
        have hvalue := of_isOctalDigit (p := fun d =>
          !(['\n', '\r', '\x00', '\\', '?'].contains d)) (by decide) (hdigits d List.mem_cons_self)
        simpa using hvalue
      exact h.escapeDigits digits [_] hquote hother
        (fun d' hd' => isHexDigit_of_isOctalDigit (hdigits d' (List.mem_cons_of_mem _ hd'))) htake

theorem Reads.universal {isLong : Bool} {digits : List Char} (hquote : isQuote quote = true)
    (hvalid : (Piece.universal isLong digits).isValid quote = true)
    (h : Reads names quote (plainQuestionMarks cs) value) :
    Reads names quote (plainQuestionMarks ((Piece.universal isLong digits).text ++ cs))
      (value.map ((Piece.universal isLong digits).char :: ·)) := by
  simp only [Piece.isValid, Bool.and_eq_true, beq_iff_eq, decide_eq_true_eq] at hvalid
  obtain ⟨⟨hlength, hdigits⟩, hchar⟩ := hvalid
  have htake := takeCodePoint?_append hlength hdigits hchar (plainQuestionMarks cs)
  cases isLong <;>
    exact h.escapeDigits digits [_] hquote (by decide) (List.all_eq_true.1 hdigits) htake

/-- Of more than two digits the third one and those after it stand for themselves, and with a single
digit there is no reading. -/
theorem Reads.hexadecimal {digits : List Char} (hquote : isQuote quote = true)
    (hvalid : (Piece.hexadecimal digits).isValid quote = true)
    (hnext : (Piece.hexadecimal digits).mayPrecede cs = true)
    (h : Reads names quote (plainQuestionMarks cs) value) :
    Reads names quote (plainQuestionMarks ('\\' :: 'x' :: (digits ++ cs)))
      ((Piece.hexadecimal digits).reading?.bind fun out => value.map (out ++ ·)) := by
  simp only [Piece.isValid, Bool.and_eq_true, List.all_eq_true] at hvalid
  have hdigits := hvalid.1.2
  have hplain : ∀ d ∈ digits, isPlain quote d = true :=
    fun d hd => isPlain_of_isHexDigit hquote (hdigits d hd)
  have hkept : plainQuestionMarks ('\\' :: 'x' :: (digits ++ cs)) =
      '\\' :: 'x' :: (digits ++ plainQuestionMarks cs) := by
    rw [plainQuestionMarks_backslash (by simp), plainQuestionMarks_plain (by decide),
      plainQuestionMarks_plains fun d hd => (isPlain_iff.1 (hplain d hd)).2.1]
  rw [hkept]
  match digits with
  | [] => cases hvalid.1.1
  | [d] =>
      have hend : (plainQuestionMarks cs).head?.any isHexDigit = false :=
        any_head?_plainQuestionMarks (by decide) (by simpa [Piece.mayPrecede] using hnext)
      exact .broken (by decide) (takeCodePoint?_two_eq_none hend) (h.plains hplain)
  | a :: b :: more =>
      simp only [List.forall_mem_cons] at hdigits hplain
      have hchar : (numeral 16 [a, b]).isValidChar :=
        .inl (Nat.lt_of_lt_of_le (numeral_lt_of_two hdigits.1 hdigits.2.1) (by decide))
      have htake : takeEscape? names false ('x' :: ([a, b] ++ (more ++ plainQuestionMarks cs))) =
          some (_, _) := takeCodePoint?_append rfl (by simp [hdigits]) hchar _
      have hmore := (h.plains hplain.2.2).escape [a, b] [_] (by decide) (by simp [hplain]) htake
      rw [Option.map_map] at hmore
      exact hmore

/-- What a piece is read as comes before what follows is read as. -/
theorem Reads.piece {piece : Piece} (hquote : isQuote quote = true)
    (hvalid : piece.isValid quote = true) (hnext : piece.mayPrecede cs = true)
    (h : Reads names quote (plainQuestionMarks cs) value) :
    Reads names quote (plainQuestionMarks (piece.text ++ cs))
      (piece.reading?.bind fun out => value.map (out ++ ·)) := by
  cases piece with
  | plain c =>
      rw [Piece.text, List.singleton_append,
        plainQuestionMarks_plain (isPlain_iff.1 hvalid).2.1]
      exact h.plain hvalid
  | simple letter => exact h.simple hquote hvalid
  | octal digits => exact h.octal hquote hvalid hnext
  | universal isLong digits => exact h.universal hquote hvalid
  | hexadecimal digits => exact h.hexadecimal hquote hvalid hnext

end Steps

/-- **What pieces are read as** is what each of them is read as, one after the other. -/
theorem reads_textOf (names : CharacterNames) {quote : Char} {pieces : List Piece}
    (hquote : isQuote quote = true) (h : isSpelling quote pieces = true) :
    Reads names quote (plainQuestionMarks (textOf pieces)) (readingOf? pieces) := by
  induction pieces with
  | nil => exact .nil
  | cons piece pieces ih =>
      simp only [isSpelling, Bool.and_eq_true] at h
      exact (ih h.2).piece hquote h.1.1 h.1.2

end TeachingTree.Literal

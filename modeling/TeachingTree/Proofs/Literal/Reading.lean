/-
**Texts between two quotes, read as expressions.**

A text between two quotes of one kind is an expression by itself if it keeps to its line: the quote
and line ends do not stand in it unless a backslash is in front of them.  Whether it has a value
depends on its escapes alone.  If all of them can be read, the value is a text, in which every
character outside of the escapes stands for itself; if one of them cannot be read, there is no
expression at all.

Main definitions:

* `Reads` — what a text between quotes stands for, escape by escape.

Main results:

* `Reads.takeBody?_append`, `Reads.unescape?_eq` — the body of the literal ends where the text does,
  and its escapes are read one after the other;
* `Reads.readExpression_eq` — **the value of a text between quotes**.
-/

import TeachingTree.Literal.Expression
import TeachingTree.Proofs.Literal.Spelling

set_option relaxedAutoImplicit false
set_option autoImplicit false

namespace TeachingTree.Literal

open Text

/-! ### Texts between quotes -/

/-- What a text between quotes stands for, or that one of its escapes cannot be read. -/
inductive Reads (names : CharacterNames) (quote : Char) :
    List Char → Option (List Char) → Prop where
  | nil : Reads names quote [] (some [])
  | plain {c : Char} {cs : List Char} {value : Option (List Char)} (hc : isPlain quote c = true)
      (h : Reads names quote cs value) : Reads names quote (c :: cs) (value.map (c :: ·))
  | escape {c : Char} {cs : List Char} {value : Option (List Char)} (digits out : List Char)
      (hc : ¬['\n', '\r', '\x00'].contains c) (hdigits : ∀ d ∈ digits, isPlain quote d = true)
      (htake : takeEscape? names false (c :: (digits ++ cs)) = some (out.map .char, cs))
      (h : Reads names quote cs value) :
      Reads names quote ('\\' :: c :: (digits ++ cs)) (value.map (out ++ ·))
  | broken {c : Char} {cs : List Char} {value : Option (List Char)}
      (hc : ¬['\n', '\r', '\x00'].contains c) (htake : takeEscape? names false (c :: cs) = none)
      (h : Reads names quote cs value) : Reads names quote ('\\' :: c :: cs) none

/-! ### Single characters and escapes -/

section Steps

variable {names : CharacterNames} {quote c : Char}

theorem isPlain_iff : isPlain quote c = true ↔
    c ≠ quote ∧ c ≠ '\\' ∧ c ≠ '\n' ∧ c ≠ '\r' ∧ c ≠ '\x00' := by
  simp [isPlain]

theorem eq_of_isQuote (h : isQuote quote = true) : quote = '"' ∨ quote = '\'' := by
  simpa [isQuote] using h

theorem ne_backslash_of_isQuote (h : isQuote quote = true) : quote ≠ '\\' := by
  rintro rfl
  exact absurd h (by decide)

/-- A plain character is one of the body. -/
theorem takeBody?_plain (h : isPlain quote c = true) (cs : List Char) :
    takeBody? quote false (c :: cs) =
      (takeBody? quote false cs).map fun (body, rest) => (c :: body, rest) := by
  obtain ⟨hquote, hbackslash, hline, -, -⟩ := isPlain_iff.1 h
  rw [takeBody?.eq_def]
  simp [hquote, hbackslash, hline]

theorem takeBody?_plains {digits : List Char} (h : ∀ d ∈ digits, isPlain quote d = true)
    (cs : List Char) :
    takeBody? quote false (digits ++ cs) =
      (takeBody? quote false cs).map fun (body, rest) => (digits ++ body, rest) := by
  induction digits with
  | nil => simp
  | cons d digits ih =>
      have hrest := ih fun d' hd' => h d' (List.mem_cons_of_mem _ hd')
      rw [List.cons_append, takeBody?_plain (h d List.mem_cons_self), hrest, Option.map_map]
      rfl

/-- A character after a backslash is one of the body, whatever it is. -/
theorem takeBody?_escape (cs : List Char) :
    takeBody? quote false ('\\' :: c :: cs) =
      (takeBody? quote false cs).map fun (body, rest) => ('\\' :: c :: body, rest) := by
  simp [takeBody?]

theorem unescape?_plain (h : c ≠ '\\') (cs : List Char) :
    unescape? names false (c :: cs) = (unescape? names false cs).map (.char c :: ·) := by
  rw [unescape?]
  simp [h]

theorem unescape?_escape {cs rest : List Char} {out : List CodePoint}
    (h : takeEscape? names false cs = some (out, rest)) :
    unescape? names false ('\\' :: cs) = (unescape? names false rest).map (out ++ ·) := by
  rw [unescape?]
  simp only [beq_self_eq_true, if_true]
  split
  · rename_i out' rest' htake
    rw [h, Option.some.injEq, Prod.mk.injEq] at htake
    rw [htake.1, htake.2]
  · rename_i htake
    rw [h] at htake
    cases htake

theorem unescape?_broken {cs : List Char} (h : takeEscape? names false cs = none) :
    unescape? names false ('\\' :: cs) = none := by
  rw [unescape?]
  simp only [beq_self_eq_true, if_true]
  split
  · rename_i out rest htake
    rw [h] at htake
    cases htake
  · rfl

/-- A text without the line ends of the other sort is left as it is. -/
theorem lineFeeds_eq_self {cs : List Char} (h : '\r' ∉ cs) : lineFeeds cs = cs := by
  induction cs with
  | nil => rfl
  | cons d cs ih =>
      simp only [List.mem_cons, not_or] at h
      rw [lineFeeds, if_neg (by simpa using Ne.symm h.1), ih h.2]
      rintro rest rfl
      exact absurd rfl h.1

theorem lexemesFrom?_lexeme {depth : Nat} {cs rest : List Char} {lexeme : Lexeme}
    (h : takeElement? names depth cs = some (some lexeme, rest)) :
    lexemesFrom? names depth cs = do
      let depth ← depthAfter? depth lexeme
      let more ← lexemesFrom? names depth rest
      return lexeme :: more := by
  have hne : cs ≠ [] := by
    rintro rfl
    cases h
  rw [lexemesFrom?, if_neg hne]
  split
  · rename_i htake
    rw [h] at htake
    cases htake
  · rename_i htake
    rw [h] at htake
    cases htake
  · rename_i htake
    rw [h] at htake
    cases htake
    rfl

theorem lexemesFrom?_eq_none {depth : Nat} {cs : List Char} (hne : cs ≠ [])
    (h : takeElement? names depth cs = none) : lexemesFrom? names depth cs = none := by
  rw [lexemesFrom?, if_neg hne]
  split
  · rfl
  · rename_i htake
    rw [h] at htake
    cases htake
  · rename_i htake
    rw [h] at htake
    cases htake

end Steps

namespace Reads

variable {names : CharacterNames} {quote : Char} {cs : List Char} {value : Option (List Char)}

/-! ### The body of a literal -/

/-- The body of the literal is the whole text. -/
theorem takeBody?_append (h : Reads names quote cs value) (hquote : isQuote quote = true)
    (rest : List Char) : takeBody? quote false (cs ++ quote :: rest) = some (cs, rest) := by
  induction h with
  | nil =>
      have hbackslash := ne_backslash_of_isQuote hquote
      rw [List.nil_append, takeBody?.eq_def]
      simp [hbackslash]
  | plain hc _ ih => rw [List.cons_append, takeBody?_plain hc, ih, Option.map_some]
  | escape _ _ _ hdigits _ _ ih =>
      rw [List.cons_append, List.cons_append, List.append_assoc, takeBody?_escape,
        takeBody?_plains hdigits, ih, Option.map_some, Option.map_some]
  | broken _ _ _ ih =>
      rw [List.cons_append, List.cons_append, takeBody?_escape, ih, Option.map_some]

/-- Escapes are read one after the other, and a single one that cannot be read spoils the text. -/
theorem unescape?_eq (h : Reads names quote cs value) :
    unescape? names false cs = value.map (List.map .char) := by
  induction h with
  | nil =>
      rw [unescape?]
      rfl
  | @plain c _ value hc _ ih =>
      rw [unescape?_plain (isPlain_iff.1 hc).2.1, ih]
      cases value <;> simp
  | @escape _ _ value _ _ _ _ htake _ ih =>
      rw [unescape?_escape htake, ih]
      cases value <;> simp
  | broken _ htake _ _ => exact unescape?_broken htake

/-- There is no line end of the other sort in the text, and no U+0000. -/
theorem notMem (h : Reads names quote cs value) : '\r' ∉ cs ∧ '\x00' ∉ cs := by
  have hplain : ∀ {d : Char}, isPlain quote d = true → '\r' ≠ d ∧ '\x00' ≠ d :=
    fun hd => ⟨(isPlain_iff.1 hd).2.2.2.1.symm, (isPlain_iff.1 hd).2.2.2.2.symm⟩
  have hescaped : ∀ {c : Char}, ¬['\n', '\r', '\x00'].contains c = true →
      '\r' ≠ c ∧ '\x00' ≠ c := by
    intro c hc
    simp only [List.contains_cons, List.contains_nil, Bool.or_eq_true, beq_iff_eq, not_or] at hc
    exact ⟨fun heq => hc.2.1 heq.symm, fun heq => hc.2.2.1 heq.symm⟩
  induction h with
  | nil => simp
  | plain hc _ ih => simp [hplain hc, ih]
  | escape digits _ hc hdigits _ _ ih =>
      have hnone : '\r' ∉ digits ∧ '\x00' ∉ digits :=
        ⟨fun hmem => (hplain (hdigits _ hmem)).1 rfl, fun hmem => (hplain (hdigits _ hmem)).2 rfl⟩
      simp [hescaped hc, hnone, ih]
  | broken hc _ _ ih => simp [hescaped hc, ih]

/-! ### The literal -/

/-- The quote is not one of three. -/
theorem twoMore?_eq_none (h : Reads names quote cs value) (hquote : isQuote quote = true) :
    twoMore? quote (cs ++ [quote]) = none := by
  have hfirst : ∀ {c : Char} (rest : List Char), c ≠ quote → twoMore? quote (c :: rest) = none := by
    intro c rest hc
    cases rest <;> simp [twoMore?, hc]
  cases h with
  | nil => rfl
  | plain hc _ => exact hfirst _ (isPlain_iff.1 hc).1
  | escape _ _ _ _ _ _ => exact hfirst _ (ne_backslash_of_isQuote hquote).symm
  | broken _ _ _ => exact hfirst _ (ne_backslash_of_isQuote hquote).symm

/-- The literal ends with the text, and is a text if its escapes can be read. -/
theorem takeLiteral?_eq (h : Reads names quote cs value) (hquote : isQuote quote = true) :
    takeLiteral? names (quote :: (cs ++ [quote])) =
      value.map fun out => (.text (out.map .char), []) := by
  have hform : (quotationForms.lookup (([] : List Char).map Char.toLower)) =
      some (false, .text) := rfl
  have hletter : "rRuUbBfF".toList.contains quote = false := by
    rcases eq_of_isQuote hquote with rfl | rfl <;> decide
  have hbody : takeQuoted? quote (cs ++ [quote]) = some (cs, []) := by
    rw [takeQuoted?, h.twoMore?_eq_none hquote]
    exact h.takeBody?_append hquote []
  have hkind : decide (QuotationKind.text = .bytes) = false := rfl
  have hquotation : quotation? names false .text cs =
      value.map fun out => .text (out.map .char) := by
    simp only [quotation?, hkind, h.unescape?_eq, Bool.false_eq_true, if_false]
    cases value <;> rfl
  simp only [takeLiteral?, List.takeWhile_cons, hletter, Bool.false_eq_true, if_false, hform,
    List.length_nil, List.drop_zero, hquote, if_true, hbody, Option.bind_some, hquotation,
    Option.map_map]
  rfl

/-- Nothing but a literal begins with a quote. -/
theorem takeLexeme?_quote (hquote : isQuote quote = true) (cs : List Char) :
    takeLexeme? names (quote :: cs) =
      (takeLiteral? names (quote :: cs)).map fun (found, rest) => (.ofQuotation found, rest) := by
  have hnone : takeNumeral? (quote :: cs) = none ∧ takeWord? (quote :: cs) = none ∧
      takeMark? (quote :: cs) = none := by
    rcases eq_of_isQuote hquote with rfl | rfl <;> exact ⟨rfl, rfl, rfl⟩
  rw [takeLexeme?]
  cases takeLiteral? names (quote :: cs) with
  | some found => rfl
  | none => simp [hnone]

/-- The first element of a text that begins with a quote is a literal. -/
theorem takeElement?_quote (hquote : isQuote quote = true) (cs : List Char) :
    takeElement? names 0 (quote :: cs) =
      (takeLiteral? names (quote :: cs)).map fun (found, rest) =>
        (some (.ofQuotation found), rest) := by
  have hgap : isGapBlank quote = false ∧ quote ≠ '#' ∧ quote ≠ '\n' ∧ quote ≠ '\\' := by
    rcases eq_of_isQuote hquote with rfl | rfl <;> decide
  simp only [takeElement?, hgap, beq_iff_eq, Bool.false_eq_true, if_false,
    takeLexeme?_quote hquote, Option.map_map]
  rfl

/-- There are no lexemes but the literal. -/
theorem lexemes?_eq (h : Reads names quote cs value) (hquote : isQuote quote = true) :
    lexemes? names (quote :: (cs ++ [quote])) = value.map fun out => [.text (out.map .char)] := by
  have hend : lexemesFrom? names 0 [] = some [] := by
    rw [lexemesFrom?]
    rfl
  have hfirst : takeElement? names 0 (quote :: (cs ++ [quote])) = _ :=
    takeElement?_quote hquote (cs ++ [quote])
  rw [h.takeLiteral?_eq hquote] at hfirst
  rw [lexemes?]
  cases value with
  | none => exact lexemesFrom?_eq_none (List.cons_ne_nil _ _) hfirst
  | some out =>
      rw [lexemesFrom?_lexeme hfirst]
      simp [depthAfter?, Lexeme.ofQuotation, hend]

/-- **The value of a text between quotes** is a text if all its escapes can be read, and otherwise
there is none. -/
theorem readExpression_eq (h : Reads names quote cs value) (hquote : isQuote quote = true) :
    readExpression names (quote :: (cs ++ [quote])) =
      .ok (value.map fun out => .text (out.map .char)) := by
  have hends : '\r' ≠ quote ∧ '\x00' ≠ quote := by
    rcases eq_of_isQuote hquote with rfl | rfl <;> decide
  have hline : lineFeeds (quote :: (cs ++ [quote])) = quote :: (cs ++ [quote]) :=
    lineFeeds_eq_self (by simp [hends, h.notMem])
  have hnull : (quote :: (cs ++ [quote])).contains '\x00' = false := by
    simp [hends, h.notMem]
  have hterm : readTerm? names ((quote :: (cs ++ [quote])).length + 1) (quote :: (cs ++ [quote])) =
      value.map fun out => .leaf (.text (out.map .char)) := by
    rw [readTerm?, h.lexemes?_eq hquote]
    cases value <;> rfl
  rw [readExpression, hnull, hline]
  simp only [Bool.false_eq_true, if_false, hterm]
  cases value <;> rfl

end Reads

end TeachingTree.Literal

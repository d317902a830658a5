/-
**Literals behind macros.**

The only token of a literal may be the name of a macro that leads, by any number of macros, to the
token which is meant.  Every name on the way is followed for numbers, characters and truth values,
so these literals are built as if the token itself were written.

A text is made of the tokens of its literal, and of each of them only the name is replaced by the
body of its macro, once.  So a text behind one macro is the text of the token, but behind more of
them it is what the body of the first macro stands for by itself: this body is a name again, and a
name without quotes stands for its own letters.

Main definitions:

* `CursorHead.withToken` — a cursor with one token.

Main results:

* `Building.expression_behind_macros` — **literals behind macros**, and when texts are among those
  that are built as if the token were written;
* `Building.text_behind_macros` — a text behind two macros is the name of the second one.
-/

import Mathlib.Logic.Function.Basic
import TeachingTree.Proofs.Building.Literals
import TeachingTree.Proofs.Cursor.Macro
import TeachingTree.Proofs.Literal.Decoding

set_option relaxedAutoImplicit false
set_option autoImplicit false

namespace TeachingTree

/-- The cursor with the given token as its only one. -/
def CursorHead.withToken (head : CursorHead) (token : Token) : CursorHead :=
  { head with tokens := [token] }

namespace Building

/-! ### Literals with one token -/

/-- The node of a text, or the failure to find one. -/
def textNode (position : Position) :
    Except LiteralError (List Text.CodePoint) → Build Node
  | .ok points => return .string points position
  | .error e => Build.stop e

theorem textNode_injective (position : Position) : Function.Injective (textNode position) := by
  intro outcome other h
  have hrun := congrFun h {}
  cases outcome <;> cases other <;> cases hrun <;> rfl

section WithToken

variable (context : Context) {head : CursorHead} (children arguments : List Cursor)

theorem literalText_withToken (macros : MacroTable) (token : Token) :
    literalText macros (head.withToken token) = macros.resolve token.spelling := rfl

/-- A literal other than a text depends only on the end of the macros that start at its token. -/
theorem expression_withToken_congr (hliteral : isLiteral head = true)
    (htext : head.kind ≠ .stringLiteral) {token other : Token}
    (h : context.macros.resolve token.spelling = context.macros.resolve other.spelling) :
    expression context (.mk (head.withToken token) children arguments) =
      expression context (.mk (head.withToken other) children arguments) := by
  have hkind : ∀ written : Token, (head.withToken written).kind = head.kind := fun _ => rfl
  rw [expression, expression]
  simp only [isLiteral, List.contains_cons, List.contains_nil, Bool.or_eq_true, beq_iff_eq,
    Bool.or_false] at hliteral
  rcases hliteral with hsort | hsort | hsort | hsort | hsort
  · simp only [expressionNode, hkind, hsort, integerNode, literalText_withToken, h]
    rfl
  · simp only [expressionNode, hkind, hsort, floatingNode, literalText_withToken, h]
    rfl
  · simp only [expressionNode, hkind, hsort, characterNode, literalText_withToken, h]
    rfl
  · exact absurd hsort htext
  · simp only [expressionNode, hkind, hsort, literalText_withToken, h]
    rfl

/-- The text of one token depends on what its name is replaced by. -/
theorem expression_text_withToken (htext : head.kind = .stringLiteral) (token : Token) :
    expression context (.mk (head.withToken token) children arguments) =
      textNode head.position
        (Literal.decodePieces context.names [context.macros.expand token.spelling]) := by
  have hkind : (head.withToken token).kind = .stringLiteral := htext
  rw [expression]
  simp only [expressionNode, hkind]
  rfl

end WithToken

/-- **A literal behind macros is built as if the token at their end were written**, if it is not a
text or there is only one macro.  The text behind several macros is what the body of the first one
stands for by itself, which is its own letters if it is a name. -/
theorem expression_behind_macros (context : Context) (head : CursorHead)
    (children arguments : List Cursor) (name final : Token) (hliteral : isLiteral head = true)
    {count : Nat} (h : context.macros.LeadsTo (count + 1) name.spelling final.spelling) :
    let node := fun token => expression context (.mk (head.withToken token) children arguments)
    (head.kind ≠ .stringLiteral ∨ count = 0 → node name = node final) ∧
      (head.kind = .stringLiteral → ∀ body, context.macros.lookup name.spelling = some body →
        (node name = node final ↔
          Literal.decodePieces context.names [body] =
            Literal.decodePieces context.names [final.spelling]) ∧
        (body.toList.any Literal.isQuote = false →
          node name = textNode head.position (.ok (Text.CodePoint.ofString body)))) := by
  intro node
  have hfinal : context.macros.lookup final.spelling = none := h.lookup_final
  have hexpandFinal : context.macros.expand final.spelling = final.spelling := by
    rw [MacroTable.expand, hfinal, Option.getD_none]
  have hexpand : ∀ {body}, context.macros.lookup name.spelling = some body →
      context.macros.expand name.spelling = body := by
    intro body hbody
    rw [MacroTable.expand, hbody, Option.getD_some]
  constructor
  · by_cases htext : head.kind = .stringLiteral
    · rintro (hother | rfl)
      · exact absurd htext hother
      · -- the body of the only macro is the token at the end
        cases h with
        | step hbody hrest =>
            cases hrest
            simp only [node, expression_text_withToken _ _ _ htext, hexpand hbody, hexpandFinal]
    · intro _
      refine expression_withToken_congr _ _ _ hliteral htext ?_
      rw [MacroTable.resolve_of_leadsTo h, MacroTable.resolve_of_lookup_eq_none hfinal]
  · intro htext body hbody
    simp only [node, expression_text_withToken _ _ _ htext, hexpand hbody, hexpandFinal]
    constructor
    · exact (textNode_injective _).eq_iff
    · intro hquotes
      rw [Literal.decodePieces_of_noQuotes _ hquotes]

/-- A program with macros for a text and for a number, each behind another one. -/
def greetingContext : Context where
  mainFile := "main.cpp"
  macros := [("GREETING", "HELLO"), ("HELLO", "\"hi\""), ("LIMIT", "TEN"), ("TEN", "10")]

/-- A literal with one token. -/
def literalCursor (kind : CursorKind) (text : String) : Cursor :=
  .mk (CursorHead.withToken { kind } ⟨text, 0, text.length⟩) [] []

/-- The number behind two macros is the one at their end, and so is a text behind one macro; a text
behind two is the name of the second. -/
theorem expression_behind_greeting :
    expression greetingContext (literalCursor .integerLiteral "LIMIT") =
        expression greetingContext (literalCursor .integerLiteral "10") ∧
      expression greetingContext (literalCursor .stringLiteral "HELLO") =
        expression greetingContext (literalCursor .stringLiteral "\"hi\"") ∧
      expression greetingContext (literalCursor .stringLiteral "GREETING") =
        textNode .unknown (.ok (Text.CodePoint.ofString "HELLO")) := by
  have hlimit : greetingContext.macros.LeadsTo 2 "LIMIT" "10" := .step rfl (.step rfl (.here rfl))
  have hhello : greetingContext.macros.LeadsTo 1 "HELLO" "\"hi\"" := .step rfl (.here rfl)
  have hgreeting : greetingContext.macros.LeadsTo 2 "GREETING" "\"hi\"" := .step rfl hhello
  have htext := expression_behind_macros greetingContext { kind := .stringLiteral } [] []
    ⟨"GREETING", 0, 8⟩ ⟨"\"hi\"", 0, 4⟩ rfl hgreeting
  exact ⟨(expression_behind_macros greetingContext { kind := .integerLiteral } [] []
      ⟨"LIMIT", 0, 5⟩ ⟨"10", 0, 2⟩ rfl hlimit).1 (.inl (by decide)),
    (expression_behind_macros greetingContext { kind := .stringLiteral } [] []
      ⟨"HELLO", 0, 5⟩ ⟨"\"hi\"", 0, 4⟩ rfl hhello).1 (.inr rfl),
    (htext.2 rfl "HELLO" rfl).2 (by decide)⟩

/-- Not every literal behind macros is built as if the token at their end were written: a text
behind two macros is the name of the second one. -/
theorem text_behind_macros :
    greetingContext.macros.LeadsTo 2 "GREETING" "\"hi\"" ∧
      expression greetingContext (literalCursor .stringLiteral "GREETING") {} =
        (.ok (.string (Text.CodePoint.ofString "HELLO") .unknown), {}) ∧
      expression greetingContext (literalCursor .stringLiteral "\"hi\"") {} =
        (.ok (.string (Text.CodePoint.ofString "hi") .unknown), {}) := by
  have hname : Literal.decodePieces greetingContext.names
      [greetingContext.macros.expand "GREETING"] = .ok (Text.CodePoint.ofString "HELLO") :=
    Literal.decodePieces_of_noQuotes _ (by decide)
  have hwritten : Literal.decodePieces greetingContext.names
      [greetingContext.macros.expand "\"hi\""] = .ok (Text.CodePoint.ofString "hi") :=
    Literal.decodePieces_singleton (Literal.decodeQuoted_quoted _ "" '"' [.plain 'h', .plain 'i']
      (by decide) (by decide) (by decide))
  refine ⟨.step rfl (.step rfl (.here rfl)), ?_, ?_⟩
  · rw [literalCursor, expression_text_withToken _ _ _ rfl, hname]
    rfl
  · rw [literalCursor, expression_text_withToken _ _ _ rfl, hwritten]
    rfl

end Building

end TeachingTree

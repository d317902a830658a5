/-
**What a literal is built into.**

A literal is built into a node, or it stops the builder with a fault.  Which of the two happens, and
the node, depend on the literal, the macros of the program and the names of characters only, and the
state stays as it is.

Integers always have a node, and so has a number that is written and that cannot be read; the node
then says that it is not modeled.  But a hexadecimal number beyond the largest finite one stops the
builder, and so does an integer of that size that the parser has computed for a floating-point
number, and a character or a text whose token stands for something else.

Main definitions:

* `Build.Decided` — actions that stop with a given fault, or that give something if there is none;
* `Building.literalFault?` — why a literal has no node, if it has none;
* `Building.textFault?` — why the text of a number cannot be read, if it cannot.

Main results:

* `Building.decided_literal` — **a literal stops the builder exactly if it has a fault**;
* `Building.expression_of_textFault` — the node of a number that cannot be read;
* `Building.onLiteral_of_decided` — a property that literals have in any case.
-/

import TeachingTree.Proofs.Building.Actions

set_option relaxedAutoImplicit false
set_option autoImplicit false

namespace TeachingTree

namespace Build

variable {α : Type}

/-- An action that stops with a fault in whatever state, or, if there is none, always gives the
same, and leaves the state as it is. -/
def Decided (fault : Option LiteralError) (action : Build α) : Prop :=
  match fault with
  | some e => ∀ s : Building.State, action s = (.error e, s)
  | none => ∃ a, ∀ s : Building.State, action s = (.ok a, s)

theorem decided_pure (a : α) : Decided none (pure a : Build α) := ⟨a, fun _ => rfl⟩

theorem decided_stop (e : LiteralError) : Decided (some e) (stop e : Build α) := fun _ => rfl

end Build

namespace Building

open Build

/-! ### Literals -/

/-- Why a value cannot be given, if it cannot. -/
def faultOf {α : Type} : Except LiteralError α → Option LiteralError
  | .ok _ => none
  | .error e => some e

/-- Why a floating-point number has no node, if it has none: the integer that the parser computed,
or the hexadecimal number that is written, is too large. -/
def floatingFault? (macros : MacroTable) (head : CursorHead) : Option LiteralError :=
  match head.value with
  | some (.integer n) => if (Binary64.ofInt? n).isSome then none else some .integerTooLarge
  | some (.floating _) => none
  | none => match Literal.decodeFloating (literalText macros head) with
    | .error .tooLarge => some .tooLarge
    | _ => none

/-- Why a literal has no node, if it has none. -/
def literalFault? (context : Context) (head : CursorHead) : Option LiteralError :=
  match head.kind with
  | .floatingLiteral => floatingFault? context.macros head
  | .characterLiteral =>
    faultOf (Literal.decodeQuoted context.names (literalText context.macros head))
  | .stringLiteral =>
    faultOf (Literal.decodePieces context.names
      (head.tokens.map fun token => context.macros.expand token.spelling))
  | _ => none

/-- Whether a cursor is a literal. -/
def isLiteral (head : CursorHead) : Bool :=
  [.integerLiteral, .floatingLiteral, .characterLiteral, .stringLiteral, .boolLiteral].contains
    head.kind

section Literals

variable (context : Context) (head : CursorHead)

theorem decided_floatingNode (macros : MacroTable) :
    Decided (floatingFault? macros head) (floatingNode macros head) := by
  simp only [floatingFault?, floatingNode]
  cases head.value with
  | none =>
      simp only
      cases Literal.decodeFloating (literalText macros head) with
      | ok x => exact decided_pure _
      | error e =>
          cases e with
          | tooLarge => exact decided_stop _
          | _ => exact decided_pure _
  | some value =>
      cases value with
      | floating x => exact decided_pure _
      | integer n =>
          simp only
          cases Binary64.ofInt? n with
          | none => exact decided_stop _
          | some x => exact decided_pure _

theorem decided_characterNode :
    Decided (faultOf (Literal.decodeQuoted context.names (literalText context.macros head)))
      (characterNode context head) := by
  rw [characterNode]
  cases Literal.decodeQuoted context.names (literalText context.macros head) with
  | ok value => exact decided_pure _
  | error e => exact decided_stop _

theorem decided_stringNode :
    Decided
      (faultOf (Literal.decodePieces context.names
        (head.tokens.map fun token => context.macros.expand token.spelling)))
      (stringNode context head) := by
  rw [stringNode]
  cases Literal.decodePieces context.names
      (head.tokens.map fun token => context.macros.expand token.spelling) with
  | ok points => exact decided_pure _
  | error e => exact decided_stop _

end Literals

/-- The node of a literal has a property if it has it in either case. -/
theorem onLiteral_of_decided {law : Law} {context : Context} {head : CursorHead}
    (h : ∀ action : Build Node, Decided (literalFault? context head) action → law.Holds action) :
    law.OnLiteral context head where
  floating hkind :=
    h _ (by simpa only [literalFault?, hkind] using decided_floatingNode head context.macros)
  character hkind :=
    h _ (by simpa only [literalFault?, hkind] using decided_characterNode context head)
  string hkind := h _ (by simpa only [literalFault?, hkind] using decided_stringNode context head)

/-- **A literal stops the builder exactly if it has a fault**, and it never changes the state. -/
theorem decided_literal (context : Context) {head : CursorHead} (h : isLiteral head = true)
    (children arguments : List Cursor) :
    Decided (literalFault? context head)
      (expression context (.mk head children arguments)) := by
  rw [expression]
  simp only [isLiteral, List.contains_cons, List.contains_nil, Bool.or_eq_true, beq_iff_eq,
    Bool.or_false] at h
  rcases h with hkind | hkind | hkind | hkind | hkind <;>
    simp only [literalFault?, expressionNode, hkind]
  · exact decided_pure _
  · exact decided_floatingNode head context.macros
  · exact decided_characterNode context head
  · exact decided_stringNode context head
  · exact decided_pure _

/-! ### Numbers that cannot be read -/

/-- Why the text of a number cannot be read, if it has to be read, because the parser has not
computed the number, and if it cannot. -/
def textFault? (macros : MacroTable) (head : CursorHead) : Option LiteralError :=
  match head.kind, head.value with
  | .integerLiteral, some (.integer _) => none
  | .integerLiteral, _ => faultOf (Literal.decodeInteger (literalText macros head))
  | .floatingLiteral, none => faultOf (Literal.decodeFloating (literalText macros head))
  | _, _ => none

/-- No integer is too large to be read. -/
theorem decodeInteger_ne_tooLarge (token : String) :
    Literal.decodeInteger token ≠ .error .tooLarge := by
  have hbase : ∀ base cs, Literal.integerInBase base cs ≠ .error .tooLarge := by
    intro base cs h
    rw [Literal.integerInBase] at h
    split at h <;> cases h
  rw [Literal.decodeInteger]
  generalize Literal.dropFinal (List.dropWhile Literal.isIntegerSuffix)
    (Literal.dropSeparators token.toList) = cs
  intro h
  unfold Literal.plainInteger at h
  split at h
  · split at h
    · exact hbase _ _ h
    · split at h <;> exact hbase _ _ h
  · exact hbase _ _ h

/-- **The node of a number that cannot be read says that it is not modeled**, unless the number is
hexadecimal and too large. -/
theorem expression_of_textFault (context : Context) {head : CursorHead} {e : LiteralError}
    (h : textFault? context.macros head = some e) (children arguments : List Cursor) (s : State) :
    expression context (.mk head children arguments) s =
      if e = .tooLarge then (.error e, s)
      else (.ok (.unmodeled head.kind.name head.position), s) := by
  have herror : ∀ {α : Type} {x : Except LiteralError α}, faultOf x = some e → x = .error e := by
    intro α x hx
    cases x with
    | ok a => cases hx
    | error e' => rw [Option.some.inj hx]
  rw [expression]
  simp only [textFault?] at h
  split at h
  · cases h
  · rename_i hkind hvalue
    have he := herror h
    have hne : e ≠ .tooLarge := fun hlarge => decodeInteger_ne_tooLarge _ (hlarge ▸ he)
    have hnode : integerNode context.macros head = .unmodeled head.kind.name head.position := by
      rw [integerNode]
      split
      · rename_i n hn
        exact (hvalue n hn).elim
      · rw [he]
    rw [if_neg hne]
    simp only [expressionNode, hkind, hnode]
    rfl
  · rename_i hkind hvalue
    have he := herror h
    simp only [expressionNode, floatingNode, hkind, hvalue, he]
    cases e <;> rfl
  · cases h

end Building

end TeachingTree

/-
**Expressions that only wrap another one.**

Parentheses and casts wrap the expression below them.  A call wraps an expression in three ways: it
constructs a value from one argument, it copies its argument without calling a function, or it
converts a value to another type.  What is wrapped may be such an expression again, in any order and
to any depth.

There are two ways to see this.  The one that runs turns a wrapper into a node by running the action
of the part that it wraps.  The other one first goes inwards through the wrappers, from one cursor
to the next, and then turns the cursor at which it ends into a node.  Both give the same, so nothing
of a wrapper is left in the node, not even its position.  A cursor holds the cursors below it, so
every way inwards ends, and it ends at a cursor that wraps nothing.

Main definitions:

* `Cursor.Wraps` — one layer around a cursor;
* `Cursor.Wrapped`, `Cursor.wrapped` — what a cursor wraps;
* `Cursor.unwrap` — the cursor at which the way inwards ends, if there is one.

Main results:

* `Cursor.wraps_iff` — what a cursor wraps has one layer around it;
* `Cursor.unwrap_eq_some_iff` — the way inwards ends at the cursor that layers lead to and that
  stands for itself;
* `Building.expression_of_wraps` — what one layer does;
* `Building.expression_eq_unwrap` — **an expression is built from what it wraps**;
* `Building.expression_of_wrappers` — **wrappers are transparent**.
-/

import Mathlib.Logic.Relation
import TeachingTree.Building.Expression

set_option relaxedAutoImplicit false
set_option autoImplicit false

namespace TeachingTree

open Building

/-! ### Layers -/

namespace Cursor

/-- The expressions among cursors. -/
def expressionsOf (cursors : List Cursor) : List Cursor := cursors.filter isExpression

/-- The arguments that are written. -/
def writtenOf (arguments : List Cursor) : List Cursor :=
  arguments.filter fun argument => !argument.isDefaultArgument

/-- The first cursor that names a member. -/
def memberOf? (cursors : List Cursor) : Option Cursor :=
  cursors.find? fun cursor => cursor.kind = .memberRef

/-- One layer around a cursor. -/
inductive Wraps : Cursor → Cursor → Prop where
  /-- Parentheses or a cast with one expression below. -/
  | transparent {head : CursorHead} {children arguments : List Cursor} {inner : Cursor}
      (hkind : head.kind.isTransparent = true) (honly : expressionsOf children = [inner]) :
      Wraps (.mk head children arguments) inner
  /-- A call of a constructor with one argument. -/
  | construction {head : CursorHead} {children arguments : List Cursor} {inner : Cursor}
      {constructor : Referent} (hkind : head.kind = .call)
      (hreferent : head.referent = some constructor)
      (hconstructor : constructor.kind = .constructor)
      (honly : writtenOf arguments = [inner]) : Wraps (.mk head children arguments) inner
  /-- A call of no known function that copies its only argument. -/
  | copy {head : CursorHead} {children arguments : List Cursor} {inner : Cursor}
      (hkind : head.kind = .call) (hreferent : head.referent = none)
      (hcopy : isCopy head.type [inner] = true) (honly : writtenOf arguments = [inner]) :
      Wraps (.mk head children arguments) inner
  /-- A call of a conversion of the first expression below the member that it names. -/
  | conversion {head : CursorHead} {children arguments : List Cursor} {callee inner : Cursor}
      {conversion : Referent} (hkind : head.kind = .call)
      (hreferent : head.referent = some conversion) (hconversion : conversion.kind = .conversion)
      (hcallee : memberOf? children = some callee)
      (hfirst : (expressionsOf callee.children).head? = some inner) :
      Wraps (.mk head children arguments) inner

theorem sizeOf_lt_of_mem_children {cursor child : Cursor} (h : child ∈ cursor.children) :
    sizeOf child < sizeOf cursor := by
  obtain ⟨head, children, arguments⟩ := cursor
  have hchild := List.sizeOf_lt_of_mem (show child ∈ children from h)
  simp only [mk.sizeOf_spec]
  omega

theorem sizeOf_lt_of_mem_arguments {cursor argument : Cursor} (h : argument ∈ cursor.arguments) :
    sizeOf argument < sizeOf cursor := by
  obtain ⟨head, children, arguments⟩ := cursor
  have hargument := List.sizeOf_lt_of_mem (show argument ∈ arguments from h)
  simp only [mk.sizeOf_spec]
  omega

theorem mem_of_expressionsOf {cursors : List Cursor} {cursor : Cursor}
    (h : cursor ∈ expressionsOf cursors) : cursor ∈ cursors := (List.mem_filter.1 h).1

/-- What a layer is around is below it. -/
theorem Wraps.sizeOf_lt {outer inner : Cursor} (h : Wraps outer inner) :
    sizeOf inner < sizeOf outer := by
  cases h with
  | transparent _ honly =>
      have hmem := mem_of_expressionsOf (honly ▸ List.mem_cons_self)
      exact sizeOf_lt_of_mem_children hmem
  | construction _ _ _ honly =>
      have hmem := (List.mem_filter.1 (honly ▸ List.mem_cons_self)).1
      exact sizeOf_lt_of_mem_arguments hmem
  | copy _ _ _ honly =>
      have hmem := (List.mem_filter.1 (honly ▸ List.mem_cons_self)).1
      exact sizeOf_lt_of_mem_arguments hmem
  | @conversion head children arguments callee _ _ _ _ _ hcallee hfirst =>
      have hmem := mem_of_expressionsOf (List.mem_of_head? hfirst)
      have hinner : sizeOf inner < sizeOf callee := sizeOf_lt_of_mem_children hmem
      have houter : sizeOf callee < sizeOf (mk head children arguments) :=
        sizeOf_lt_of_mem_children (List.mem_of_find?_eq_some hcallee)
      omega

/-! ### The way inwards -/

/-- What a cursor wraps. -/
inductive Wrapped where
  /-- Nothing; it stands for itself. -/
  | itself
  /-- No cursor, although it is only a wrapper. -/
  | nothing
  /-- Another cursor. -/
  | inner (cursor : Cursor)

/-- What a cursor wraps. -/
def wrapped : Cursor → Wrapped
  | .mk head children arguments =>
    if head.kind.isTransparent then
      match expressionsOf children with
      | [] => .nothing
      | [inner] => .inner inner
      | _ => .itself
    else if head.kind = .call then
      if isConstruction head (writtenOf arguments) then
        match writtenOf arguments with
        | [inner] => .inner inner
        | _ => .itself
      else if isConversion head then
        match (memberOf? children).bind fun callee => (expressionsOf callee.children).head? with
        | some inner => .inner inner
        | none => .itself
      else .itself
    else .itself

theorem isConstruction_iff {head : CursorHead} {written : List Cursor} :
    isConstruction head written = true ↔
      (∃ referent, head.referent = some referent ∧ referent.kind = .constructor) ∨
        head.referent = none ∧ isCopy head.type written = true := by
  rw [isConstruction]
  cases head.referent <;> simp

theorem isConversion_iff {head : CursorHead} :
    isConversion head = true ↔
      ∃ referent, head.referent = some referent ∧ referent.kind = .conversion := by
  rw [isConversion]
  cases head.referent <;> simp

/-- A conversion constructs nothing. -/
theorem not_isConstruction {head : CursorHead} {conversion : Referent} (written : List Cursor)
    (hreferent : head.referent = some conversion) (hconversion : conversion.kind = .conversion) :
    ¬isConstruction head written = true := by
  simp [isConstruction, hreferent, hconversion]

theorem wraps_of_wrapped {outer inner : Cursor} (h : outer.wrapped = .inner inner) :
    Wraps outer inner := by
  revert h
  fun_cases wrapped outer with
  | case2 head children arguments htransparent first honly =>
      rintro ⟨⟩
      exact .transparent htransparent honly
  | case4 head children arguments _ hkind hconstruction first honly =>
      rintro ⟨⟩
      rw [honly] at hconstruction
      rcases isConstruction_iff.1 hconstruction with ⟨referent, hreferent, hconstructor⟩ | hcopy
      · exact .construction hkind hreferent hconstructor honly
      · exact .copy hkind hcopy.1 hcopy.2 honly
  | case6 head children arguments _ hkind _ hconversion first hfirst =>
      rintro ⟨⟩
      obtain ⟨referent, hreferent, hreferentKind⟩ := isConversion_iff.1 hconversion
      obtain ⟨callee, hcallee, hfirst⟩ := Option.bind_eq_some_iff.1 hfirst
      exact .conversion hkind hreferent hreferentKind hcallee hfirst
  | _ => rintro ⟨⟩

theorem wrapped_of_wraps {outer inner : Cursor} (h : Wraps outer inner) :
    outer.wrapped = .inner inner := by
  cases h with
  | transparent htransparent honly => rw [wrapped, if_pos htransparent, honly]
  | @construction head _ _ _ referent hkind hreferent hconstructor honly =>
      have hconstruction : isConstruction head [inner] = true :=
        isConstruction_iff.2 (.inl ⟨referent, hreferent, hconstructor⟩)
      rw [wrapped, if_neg (by rw [hkind]; decide), if_pos hkind, honly, if_pos hconstruction]
  | copy hkind hreferent hcopy honly =>
      have hconstruction := isConstruction_iff.2 (.inr ⟨hreferent, hcopy⟩)
      rw [wrapped, if_neg (by rw [hkind]; decide), if_pos hkind, honly, if_pos hconstruction]
  | @conversion head children arguments callee _ referent hkind hreferent hconversion hcallee
      hfirst =>
      have hother := not_isConstruction (writtenOf arguments) hreferent hconversion
      have hconverts := isConversion_iff.2 ⟨referent, hreferent, hconversion⟩
      rw [wrapped, if_neg (by rw [hkind]; decide), if_pos hkind, if_neg hother, if_pos hconverts,
        hcallee, Option.bind_some, hfirst]

/-- What a cursor wraps has one layer around it. -/
theorem wraps_iff {outer inner : Cursor} : Wraps outer inner ↔ outer.wrapped = .inner inner :=
  ⟨wrapped_of_wraps, wraps_of_wrapped⟩

/-- Every way inwards ends. -/
theorem wellFounded_wraps : WellFounded fun inner outer : Cursor => Wraps outer inner :=
  Subrelation.wf Wraps.sizeOf_lt (measure (sizeOf : Cursor → Nat)).wf

/-- The cursor at which the way inwards ends, if there is one. -/
def unwrap (cursor : Cursor) : Option Cursor :=
  match _h : cursor.wrapped with
  | .itself => some cursor
  | .nothing => none
  | .inner inner => unwrap inner
termination_by sizeOf cursor
decreasing_by exact (wraps_iff.2 _h).sizeOf_lt

theorem unwrap_eq (cursor : Cursor) :
    cursor.unwrap = match cursor.wrapped with
      | .itself => some cursor
      | .nothing => none
      | .inner inner => inner.unwrap := by
  rw [unwrap]
  split <;> simp_all

/-- One layer more or less does not change where the way inwards ends. -/
theorem unwrap_of_wraps {outer inner : Cursor} (h : Wraps outer inner) :
    outer.unwrap = inner.unwrap := by
  rw [unwrap_eq, wraps_iff.1 h]

/-- Neither does any number of layers. -/
theorem unwrap_of_reaches {outer inner : Cursor} (h : Relation.ReflTransGen Wraps outer inner) :
    outer.unwrap = inner.unwrap := by
  induction h with
  | refl => rfl
  | tail _ hlayer ih => rw [ih, unwrap_of_wraps hlayer]

/-- Layers lead from a cursor to one that has none around another cursor. -/
theorem exists_reaches (cursor : Cursor) :
    ∃ core, Relation.ReflTransGen Wraps cursor core ∧
      (core.wrapped = .itself ∨ core.wrapped = .nothing) := by
  induction cursor using wellFounded_wraps.induction with
  | h cursor ih =>
      cases hwrapped : cursor.wrapped with
      | itself => exact ⟨cursor, .refl, .inl hwrapped⟩
      | nothing => exact ⟨cursor, .refl, .inr hwrapped⟩
      | inner inner =>
          have hlayer := wraps_iff.2 hwrapped
          obtain ⟨core, hreaches, hcore⟩ := ih inner hlayer
          exact ⟨core, .head hlayer hreaches, hcore⟩

/-- The way inwards ends at the cursor that layers lead to and that stands for itself. -/
theorem unwrap_eq_some_iff {cursor core : Cursor} :
    cursor.unwrap = some core ↔
      Relation.ReflTransGen Wraps cursor core ∧ core.wrapped = .itself := by
  constructor
  · intro h
    obtain ⟨last, hreaches, hitself | hnothing⟩ := exists_reaches cursor
    · rw [unwrap_of_reaches hreaches, unwrap_eq, hitself] at h
      cases h
      exact ⟨hreaches, hitself⟩
    · rw [unwrap_of_reaches hreaches, unwrap_eq, hnothing] at h
      cases h
  · rintro ⟨hreaches, hitself⟩
    rw [unwrap_of_reaches hreaches, unwrap_eq, hitself]

/-- The way inwards leads to nothing exactly if layers lead to a wrapper of nothing. -/
theorem unwrap_eq_none_iff {cursor : Cursor} :
    cursor.unwrap = none ↔
      ∃ shell, Relation.ReflTransGen Wraps cursor shell ∧ shell.wrapped = .nothing := by
  constructor
  · intro h
    obtain ⟨last, hreaches, hitself | hnothing⟩ := exists_reaches cursor
    · rw [unwrap_of_reaches hreaches, unwrap_eq, hitself] at h
      cases h
    · exact ⟨last, hreaches, hnothing⟩
  · rintro ⟨shell, hreaches, hnothing⟩
    rw [unwrap_of_reaches hreaches, unwrap_eq, hnothing]

/-- Going inwards a second time leads no further. -/
theorem unwrap_unwrap (cursor : Cursor) : cursor.unwrap.bind unwrap = cursor.unwrap := by
  cases h : cursor.unwrap with
  | none => rfl
  | some core => rw [Option.bind_some, unwrap_eq, (unwrap_eq_some_iff.1 h).2]

end Cursor

namespace Building

open Cursor

/-! ### The nodes of parts -/

section Parts

variable (context : Context)

theorem expressions_eq_map (cursors : List Cursor) :
    expressions context cursors = (expressionsOf cursors).map (expression context) := by
  induction cursors with
  | nil => rfl
  | cons cursor rest ih =>
      rw [expressions, ih, expressionsOf, expressionsOf, List.filter_cons]
      split <;> rfl

theorem writtenArguments_eq_map (arguments : List Cursor) :
    writtenArguments context arguments = (writtenOf arguments).map (expression context) := by
  induction arguments with
  | nil => rfl
  | cons argument rest ih =>
      rw [writtenArguments, ih, writtenOf, writtenOf, List.filter_cons]
      by_cases hdefault : argument.isDefaultArgument = true
      · rw [if_pos hdefault, if_neg (by simp [hdefault])]
      · rw [if_neg hdefault, if_pos (by simpa using hdefault)]
        rfl

theorem converted_eq (cursors : List Cursor) :
    converted context cursors = (memberOf? cursors).bind fun callee =>
      (expressionsOf callee.children).head?.map (expression context) := by
  induction cursors with
  | nil => rfl
  | cons cursor rest ih =>
      obtain ⟨head, children, arguments⟩ := cursor
      by_cases hmember : head.kind = .memberRef
      · have hfound : memberOf? (mk head children arguments :: rest) =
            some (mk head children arguments) := List.find?_cons_of_pos (decide_eq_true hmember)
        rw [converted, if_pos hmember, expressions_eq_map, List.head?_map, hfound]
        rfl
      · have hrest : memberOf? (mk head children arguments :: rest) = memberOf? rest :=
          List.find?_cons_of_neg fun hdecided => hmember (of_decide_eq_true hdecided)
        rw [converted, if_neg hmember, ih, hrest]

end Parts

/-! ### Wrappers -/

section Wrappers

variable {context : Context} {head : CursorHead} {children arguments : List Cursor}
  {parts : ExpressionParts}

theorem expressionNode_of_isTransparent (h : head.kind.isTransparent = true) :
    expressionNode context head children arguments parts = wrappedNode head parts := by
  cases hkind : head.kind <;> simp [hkind, CursorKind.isTransparent, expressionNode] at h ⊢

theorem expressionNode_of_call (h : head.kind = .call) :
    expressionNode context head children arguments parts =
      callNode head children (writtenOf arguments) parts := by
  simp only [expressionNode, h]
  rfl

/-- A call that constructs a value from one argument is that argument. -/
theorem expression_construction (hkind : head.kind = .call) {inner : Cursor}
    (honly : writtenOf arguments = [inner]) (hconstruction : isConstruction head [inner] = true) :
    expression context (.mk head children arguments) = expression context inner := by
  rw [expression]
  funext s
  rw [expressionNode_of_call hkind, honly, callNode, if_pos hconstruction]
  simp only [writtenArguments_eq_map, honly, List.map_cons, List.map_nil]

end Wrappers

/-- A layer leaves nothing in the node of an expression. -/
theorem expression_of_wraps (context : Context) {outer inner : Cursor} (h : Wraps outer inner) :
    expression context outer = expression context inner := by
  cases h with
  | transparent htransparent honly =>
      rw [expression]
      funext s
      rw [expressionNode_of_isTransparent htransparent, wrappedNode]
      simp only [expressions_eq_map, honly, List.map_cons, List.map_nil]
  | construction hkind hreferent hconstructor honly =>
      exact expression_construction hkind honly
        (isConstruction_iff.2 (.inl ⟨_, hreferent, hconstructor⟩))
  | copy hkind hreferent hcopy honly =>
      exact expression_construction hkind honly (isConstruction_iff.2 (.inr ⟨hreferent, hcopy⟩))
  | @conversion head children arguments callee _ referent hkind hreferent hconversion hcallee
      hfirst =>
      have hother := not_isConstruction (writtenOf arguments) hreferent hconversion
      have hconverts := isConversion_iff.2 ⟨referent, hreferent, hconversion⟩
      rw [expression]
      funext s
      rw [expressionNode_of_call hkind, callNode, if_neg hother, if_pos hconverts]
      simp only [converted_eq, hcallee, Option.bind_some, hfirst, Option.map_some]

/-- A wrapper of nothing is no expression. -/
theorem expression_of_nothing (context : Context) {cursor : Cursor}
    (h : cursor.wrapped = .nothing) : expression context cursor = pure .absent := by
  obtain ⟨head, children, arguments⟩ := cursor
  rw [wrapped] at h
  by_cases htransparent : head.kind.isTransparent = true
  · rw [if_pos htransparent] at h
    rcases hparts : expressionsOf children with _ | ⟨first, _ | ⟨second, rest⟩⟩
    · rw [expression]
      funext s
      rw [expressionNode_of_isTransparent htransparent, wrappedNode]
      simp only [expressions_eq_map, hparts, List.map_nil]
    · rw [hparts] at h
      cases h
    · rw [hparts] at h
      cases h
  · -- a call is never a wrapper of nothing
    rw [if_neg htransparent] at h
    repeat' split at h
    all_goals cases h

/-- **An expression is built from the cursor at which the way inwards ends.** -/
theorem expression_eq_unwrap (context : Context) (cursor : Cursor) :
    expression context cursor = match cursor.unwrap with
      | some core => expression context core
      | none => pure .absent := by
  induction cursor using wellFounded_wraps.induction with
  | h cursor ih =>
      rw [unwrap_eq]
      cases hwrapped : cursor.wrapped with
      | itself => rfl
      | nothing => exact expression_of_nothing context hwrapped
      | inner inner =>
          have hlayer := wraps_iff.2 hwrapped
          rw [expression_of_wraps context hlayer]
          exact ih inner hlayer

/-- **Wrappers are transparent.**  Any number of layers leaves nothing in the node of an expression.
The way inwards ends.  It goes through layers only and ends at a cursor that stands for itself, or
at a wrapper of nothing; from there it leads no further, and from there the node is built. -/
theorem expression_of_wrappers (context : Context) :
    (∀ outer inner, Relation.ReflTransGen Wraps outer inner →
      expression context outer = expression context inner) ∧
    (WellFounded fun inner outer : Cursor => outer.wrapped = .inner inner) ∧
    ∀ cursor : Cursor,
      (∀ core, cursor.unwrap = some core ↔
        Relation.ReflTransGen Wraps cursor core ∧ core.wrapped = .itself) ∧
      (cursor.unwrap = none ↔
        ∃ shell, Relation.ReflTransGen Wraps cursor shell ∧ shell.wrapped = .nothing) ∧
      cursor.unwrap.bind unwrap = cursor.unwrap ∧
      expression context cursor = match cursor.unwrap with
        | some core => expression context core
        | none => pure .absent := by
  refine ⟨?_, ?_, fun cursor => ⟨fun _ => unwrap_eq_some_iff, unwrap_eq_none_iff,
    cursor.unwrap_unwrap, expression_eq_unwrap context cursor⟩⟩
  · intro outer inner h
    induction h with
    | refl => rfl
    | tail _ hlayer ih => rw [ih, expression_of_wraps context hlayer]
  · exact Subrelation.wf wraps_iff.2 wellFounded_wraps

/-- The type of the values that are wrapped below. -/
def boxType : CursorType := .mk { sort := .record, spelling := "Box" } none none []

/-- The number five at the third line. -/
def fiveCursor : Cursor :=
  .mk { kind := .integerLiteral, category := .expression, value := some (.integer 5)
        location := some ⟨3, 7, 40, some "main.cpp"⟩ } [] []

/-- The number in parentheses, as the argument of a constructor. -/
def boxCursor : Cursor :=
  let parentheses : Cursor := .mk { kind := .parenExpr, category := .expression } [fiveCursor] []
  .mk { kind := .call, category := .expression, type := boxType
        referent := some { kind := .constructor, spelling := "Box" } } [parentheses] [parentheses]

/-- The constructed value, copied and then converted back. -/
def convertedCursor : Cursor :=
  let copied : Cursor :=
    .mk { kind := .call, category := .expression, type := boxType } [boxCursor] [boxCursor]
  let callee : Cursor :=
    .mk { kind := .memberRef, category := .expression, spelling := "operator int" } [copied] []
  .mk { kind := .call, category := .expression
        referent := some { kind := .conversion, spelling := "operator int" } } [callee] []

/-- Four layers, one of each sort, leave the number and its place; the way inwards through them ends
at the number. -/
theorem expression_of_wrappers_converted :
    Relation.ReflTransGen Wraps convertedCursor fiveCursor ∧
      convertedCursor.unwrap = some fiveCursor ∧
      expression { mainFile := "main.cpp" } convertedCursor {} =
        (.ok (.integer 5 ⟨3, 7⟩), {}) := by
  have hlayers : Relation.ReflTransGen Wraps convertedCursor fiveCursor :=
    .head (.conversion rfl rfl rfl rfl rfl) <| .head (.copy rfl rfl (by decide) rfl) <|
      .head (.construction rfl rfl rfl rfl) <| .single (.transparent rfl rfl)
  obtain ⟨htransparent, -, hinwards⟩ := expression_of_wrappers { mainFile := "main.cpp" }
  refine ⟨hlayers, ((hinwards convertedCursor).1 fiveCursor).2 ⟨hlayers, rfl⟩, ?_⟩
  rw [htransparent _ _ hlayers]
  rfl

end Building

end TeachingTree

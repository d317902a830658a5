/-
**What holds of all that is built because it holds of the literals.**

The builder of source trees is a sequence of actions all the way down.  Three things happen in it:
something is given, a warning is logged, and a literal is decoded, which may stop the builder.  So a
property of actions that goes over to sequences, and that the first two have, is a property of the
whole builder as soon as the literals of the program have it.

The argument follows the builder once and for all, from types over expressions and statements to
programs.  What is known of the literals is needed for those of the cursor at hand only, whether
they are reached or not.

Main definitions:

* `Cursor.heads`, `Cursor.headsOf` — the cursors below a cursor, each without those around it;
* `Build.Law` — a property of actions that goes over to sequences;
* `Build.Law.OnLiteral`, `Build.Law.Covers` — a property that the literals of a program have.

Main results:

* `Build.bind_apply`, `Build.Law.holds_inOrder` — actions one after the other;
* `Building.holds_expression`, `Building.holds_statement`, `Building.holds_declaration` — the node
  of a cursor has a property that its literals have;
* `Building.holds_buildUnit` — **so do the declarations of a program**.
-/

import TeachingTree.Building.Program

set_option relaxedAutoImplicit false
set_option autoImplicit false

namespace TeachingTree

/-! ### The cursors of a program -/

namespace Cursor

mutual

/-- A cursor and all cursors below it, each without the cursors around it. -/
def heads : Cursor → List CursorHead
  | .mk head children arguments => head :: (headsOf children ++ headsOf arguments)

/-- Cursors and all cursors below them, each without the cursors around it. -/
def headsOf : List Cursor → List CursorHead
  | [] => []
  | cursor :: rest => cursor.heads ++ headsOf rest

end

theorem heads_subset_headsOf {cursor : Cursor} {cursors : List Cursor} (h : cursor ∈ cursors) :
    cursor.heads ⊆ headsOf cursors := by
  induction cursors with
  | nil => cases h
  | cons other rest ih =>
      rw [headsOf]
      rcases List.mem_cons.1 h with rfl | h
      · exact List.subset_append_left ..
      · exact List.subset_append_of_subset_right _ (ih h)

theorem headsOf_children_subset (cursor : Cursor) : headsOf cursor.children ⊆ cursor.heads := by
  obtain ⟨head, children, arguments⟩ := cursor
  rw [heads]
  exact List.subset_cons_of_subset _ (List.subset_append_left ..)

theorem headsOf_arguments_subset (cursor : Cursor) : headsOf cursor.arguments ⊆ cursor.heads := by
  obtain ⟨head, children, arguments⟩ := cursor
  rw [heads]
  exact List.subset_cons_of_subset _ (List.subset_append_right ..)

end Cursor

/-! ### Properties of actions -/

namespace Build

/-- What comes next gets what is given and the state that is left; a stop is passed on. -/
theorem bind_apply {α β : Type} (x : Build α) (f : α → Build β) (s : Building.State) :
    (x >>= f) s = match x s with
      | (.ok a, after) => f a after
      | (.error e, after) => (.error e, after) := by
  simp only [Bind.bind, ExceptT.bind, ExceptT.mk, StateT.bind]
  rcases x s with ⟨e | a, after⟩ <;> rfl

/-- A property of actions that goes over to sequences and that does not depend on what is given or
logged. -/
structure Law where
  /-- The property. -/
  Holds : ∀ {α : Type}, Build α → Prop
  pure : ∀ {α : Type} (a : α), Holds (pure a : Build α)
  warnOnce : ∀ line, Holds (warnOnce line)
  bind : ∀ {α β : Type} {x : Build α} {f : α → Build β},
    Holds x → (∀ a, Holds (f a)) → Holds (x >>= f)

namespace Law

variable (law : Law)

/-- Actions in order have a property if each of them has. -/
theorem holds_inOrder {α : Type} {actions : List (Build α)}
    (h : ∀ action ∈ actions, law.Holds action) : law.Holds (inOrder actions) := by
  induction actions with
  | nil => exact law.pure []
  | cons action actions ih =>
      rw [Build.inOrder]
      refine law.bind (h action (List.mem_cons_self ..)) fun result => ?_
      refine law.bind (ih fun other hother => h other (List.mem_cons_of_mem _ hother))
        fun results => ?_
      exact law.pure _

/-- The node of a cursor has a property if it is that of a literal that may have no value. -/
structure OnLiteral (context : Building.Context) (head : CursorHead) : Prop where
  floating : head.kind = .floatingLiteral → law.Holds (Building.floatingNode context.macros head)
  character : head.kind = .characterLiteral → law.Holds (Building.characterNode context head)
  string : head.kind = .stringLiteral → law.Holds (Building.stringNode context head)

/-- The nodes of literals have a property. -/
def Covers (context : Building.Context) (heads : List CursorHead) : Prop :=
  ∀ head ∈ heads, law.OnLiteral context head

variable {law} {context : Building.Context}

theorem Covers.mono {heads fewer : List CursorHead} (h : law.Covers context heads)
    (hsubset : fewer ⊆ heads) : law.Covers context fewer :=
  fun head hhead => h head (hsubset hhead)

theorem Covers.own {cursor : Cursor} (h : law.Covers context cursor.heads) :
    law.OnLiteral context cursor.head := by
  obtain ⟨head, children, arguments⟩ := cursor
  rw [Cursor.heads] at h
  exact h head (List.mem_cons_self ..)

theorem Covers.children {cursor : Cursor} (h : law.Covers context cursor.heads) :
    law.Covers context (Cursor.headsOf cursor.children) :=
  h.mono cursor.headsOf_children_subset

theorem Covers.arguments {cursor : Cursor} (h : law.Covers context cursor.heads) :
    law.Covers context (Cursor.headsOf cursor.arguments) :=
  h.mono cursor.headsOf_arguments_subset

theorem Covers.of_mem {cursors : List Cursor} (h : law.Covers context (Cursor.headsOf cursors))
    {cursor : Cursor} (hcursor : cursor ∈ cursors) : law.Covers context cursor.heads :=
  h.mono (Cursor.heads_subset_headsOf hcursor)

theorem Covers.first {cursor : Cursor} {rest : List Cursor}
    (h : law.Covers context (Cursor.headsOf (cursor :: rest))) : law.Covers context cursor.heads :=
  h.of_mem (List.mem_cons_self ..)

theorem Covers.rest {cursor : Cursor} {rest : List Cursor}
    (h : law.Covers context (Cursor.headsOf (cursor :: rest))) :
    law.Covers context (Cursor.headsOf rest) := by
  rw [Cursor.headsOf] at h
  exact h.mono (List.subset_append_right ..)

end Law

end Build

namespace Building

open Build

variable (law : Law) (context : Context)

/-! ### Types -/

section Types

/-- Only a vector without template arguments is warned about, and then its spelling decides. -/
theorem holds_recordType (head : TypeHead) (isConst : Bool) {element : Option (Build SourceType)}
    (helement : ∀ action, element = some action → law.Holds action) :
    law.Holds (recordType context head isConst element) := by
  simp only [recordType]
  split
  · exact law.pure _
  split
  · cases element with
    | some action => exact law.bind (helement action rfl) fun _ => law.pure _
    | none => exact law.bind (law.warnOnce _) fun _ => law.pure _
  split
  · exact law.pure _
  cases head.declaration with
  | none => exact law.pure _
  | some declaration =>
      simp only
      split <;> exact law.pure _

theorem holds_canonicalType (head : TypeHead) (isConst : Bool) {pointee : Build SourceType}
    {element : Option (Build SourceType)} (hpointee : law.Holds pointee)
    (helement : ∀ action, element = some action → law.Holds action) :
    law.Holds (canonicalType context head isConst pointee element) := by
  simp only [canonicalType]
  cases head.sort with
  | reference => exact hpointee
  | record => exact holds_recordType law context head isConst helement
  | _ => exact law.pure _

mutual

/-- There are no literals in types. -/
theorem holds_sourceType : ∀ type, law.Holds (sourceType context type)
  | .mk head none pointee arguments => by
      rw [sourceType]
      exact holds_canonicalType law context head _ (holds_pointedType pointee)
        (holds_firstArgument arguments)
  | .mk outer (some (.mk head _ pointee arguments)) _ _ => by
      rw [sourceType]
      exact holds_canonicalType law context head _ (holds_pointedType pointee)
        (holds_firstArgument arguments)

theorem holds_pointedType : ∀ pointee, law.Holds (pointedType context pointee)
  | none => by
      rw [pointedType]
      exact law.pure _
  | some type => by
      rw [pointedType]
      exact holds_sourceType type

theorem holds_firstArgument : ∀ arguments action,
    firstArgument context arguments = some action → law.Holds action
  | [], _, h => by simp [firstArgument] at h
  | type :: _, action, h => by
      rw [firstArgument] at h
      split at h
      · simp at h
      · cases h
        exact holds_sourceType type

end

theorem holds_nameType (type : CursorType) : law.Holds (nameType context type) := by
  simp only [nameType]
  split
  · exact law.pure _
  · exact holds_sourceType law context type

theorem holds_valueType (type : CursorType) : law.Holds (valueType context type) :=
  holds_pointedType law context type.withoutReference

theorem holds_fieldOf (spelling : String) (type : CursorType) (place : Option Place) :
    law.Holds (fieldOf context spelling type place) :=
  law.bind (holds_valueType law context type) fun _ => law.pure _

end Types

/-! ### Expressions -/

/-- The parts of an expression whose nodes have a property. -/
structure ExpressionParts.Lawful (parts : ExpressionParts) : Prop where
  operands : ∀ action ∈ parts.operands, law.Holds action
  arguments : ∀ action ∈ parts.arguments, law.Holds action
  receiver : ∀ action, parts.receiver = some action → law.Holds action
  converted : ∀ action, parts.converted = some action → law.Holds action

variable {law}

section Expression

variable (head : CursorHead) {parts : ExpressionParts}

theorem holds_unaryNode (h : parts.Lawful law) (operands : List Cursor) :
    law.Holds (unaryNode head operands parts) := by
  simp only [unaryNode]
  split
  · rename_i node _ _ hoperands _
    exact law.bind (h.operands node (by simp [hoperands])) fun _ => law.pure _
  · exact law.pure _

theorem holds_binaryNode (h : parts.Lawful law) (operands : List Cursor) :
    law.Holds (binaryNode head operands parts) := by
  simp only [binaryNode]
  split
  · rename_i lhs rhs hoperands
    refine law.bind (h.operands lhs (by simp [hoperands])) fun left => ?_
    exact law.bind (h.operands rhs (by simp [hoperands])) fun _ => law.pure _
  · exact law.pure _

theorem holds_memberNode (h : parts.Lawful law) : law.Holds (memberNode context head parts) := by
  simp only [memberNode]
  split
  · rename_i referent base rest _ hoperands
    split
    · refine law.bind (h.operands base (by simp [hoperands])) fun value => ?_
      exact law.bind (holds_fieldOf law context _ _ _) fun _ => law.pure _
    · exact law.pure _
  · exact law.pure _

theorem holds_plainCallNode (h : parts.Lawful law) (children : List Cursor) :
    law.Holds (plainCallNode head children parts) := by
  simp only [plainCallNode]
  refine law.bind (law.holds_inOrder h.arguments) fun arguments => ?_
  split
  · split
    · rename_i receiver hreceiver
      exact law.bind (h.receiver receiver hreceiver) fun _ => law.pure _
    · exact law.pure _
  · split <;> exact law.pure _

theorem holds_callNode (h : parts.Lawful law) (children written : List Cursor) :
    law.Holds (callNode head children written parts) := by
  simp only [callNode]
  split
  · split
    · rename_i argument harguments
      exact h.arguments argument (by simp [harguments])
    · exact law.pure _
  · split
    · split
      · rename_i value hconverted
        exact h.converted value hconverted
      · exact holds_plainCallNode head h children
    · exact holds_plainCallNode head h children

theorem holds_wrappedNode (h : parts.Lawful law) : law.Holds (wrappedNode head parts) := by
  simp only [wrappedNode]
  split
  · exact law.pure _
  · rename_i inner hoperands
    exact h.operands inner (by simp [hoperands])
  · exact law.pure _

/-- The node of an expression has a property if those of its parts have it, and its own if it is a
literal. -/
theorem holds_expressionNode (hown : law.OnLiteral context head) (h : parts.Lawful law)
    (children arguments : List Cursor) :
    law.Holds (expressionNode context head children arguments parts) := by
  simp only [expressionNode]
  -- the cases follow the kinds of cursors: literals, names, operators, members, calls, wrappers
  split
  · exact law.pure _
  · rename_i hkind
    exact hown.floating hkind
  · rename_i hkind
    exact hown.character hkind
  · rename_i hkind
    exact hown.string hkind
  · exact law.pure _
  · exact law.bind (holds_nameType law context head.type) fun _ => law.pure _
  · exact holds_unaryNode head h _
  · exact holds_binaryNode head h _
  · exact holds_binaryNode head h _
  · exact holds_memberNode context head h
  · split
    · rename_i base index hoperands
      refine law.bind (h.operands base (by simp [hoperands])) fun value => ?_
      exact law.bind (h.operands index (by simp [hoperands])) fun _ => law.pure _
    · exact law.pure _
  · exact holds_callNode head h children _
  · split
    · exact holds_wrappedNode head h
    · exact law.pure _

end Expression

mutual

/-- **The node of a cursor as an expression has a property that its literals have.** -/
theorem holds_expression : ∀ cursor, law.Covers context cursor.heads →
    law.Holds (expression context cursor)
  | .mk head children arguments, h => by
      rw [expression]
      exact holds_expressionNode context head h.own
        ⟨holds_expressions children h.children, holds_writtenArguments arguments h.arguments,
          holds_receiver children h.children, holds_converted children h.children⟩
        children arguments

theorem holds_expressions : ∀ cursors, law.Covers context (Cursor.headsOf cursors) →
    ∀ action ∈ expressions context cursors, law.Holds action
  | [], _, action, haction => by simp [expressions] at haction
  | cursor :: rest, h, action, haction => by
      rw [expressions] at haction
      split at haction
      · rcases List.mem_cons.1 haction with rfl | haction
        · exact holds_expression cursor h.first
        · exact holds_expressions rest h.rest action haction
      · exact holds_expressions rest h.rest action haction

theorem holds_writtenArguments : ∀ cursors,
    law.Covers context (Cursor.headsOf cursors) →
      ∀ action ∈ writtenArguments context cursors, law.Holds action
  | [], _, action, haction => by simp [writtenArguments] at haction
  | argument :: rest, h, action, haction => by
      rw [writtenArguments] at haction
      split at haction
      · exact holds_writtenArguments rest h.rest action haction
      · rcases List.mem_cons.1 haction with rfl | haction
        · exact holds_expression argument h.first
        · exact holds_writtenArguments rest h.rest action haction

theorem holds_receiver : ∀ cursors, law.Covers context (Cursor.headsOf cursors) →
    ∀ action, receiver context cursors = some action → law.Holds action
  | [], _, action, haction => by simp [receiver] at haction
  | .mk _ children _ :: _, h, action, haction => by
      rw [receiver] at haction
      exact holds_expressions children h.first.children action (List.mem_of_mem_head? haction)

theorem holds_converted : ∀ cursors, law.Covers context (Cursor.headsOf cursors) →
    ∀ action, converted context cursors = some action → law.Holds action
  | [], _, action, haction => by simp [converted] at haction
  | .mk head children _ :: rest, h, action, haction => by
      rw [converted] at haction
      split at haction
      · exact holds_expressions children h.first.children action (List.mem_of_mem_head? haction)
      · exact holds_converted rest h.rest action haction

end

/-! ### Variables and records -/

section Variables

variable (law)

theorem holds_variableHead (head : CursorHead) (isParameter : Bool) :
    law.Holds (variableHead context head isParameter) :=
  law.bind (holds_pointedType law context _) fun _ => law.pure _

theorem holds_parameterOf (cursor : Cursor) : law.Holds (parameterOf context cursor) :=
  law.bind (holds_variableHead law context cursor.head true) fun _ => law.pure _

theorem holds_memberOf (cursor : Cursor) : law.Holds (memberOf context cursor) := by
  simp only [memberOf]
  split
  · exact law.bind (holds_fieldOf law context _ _ _) fun _ => law.pure _
  split
  · exact law.pure _
  split <;> exact law.pure _

theorem holds_recordOf (head : CursorHead) (children : List Cursor) :
    law.Holds (recordOf context head children) :=
  law.bind (law.holds_inOrder (List.forall_mem_map.2 fun child _ =>
    holds_memberOf law context child)) fun _ => law.pure _

end Variables

/-- The initial value of a variable is one of its children. -/
theorem holds_initialValue (head : CursorHead) {children : List Cursor}
    (h : law.Covers context (Cursor.headsOf children)) :
    law.Holds (initialValue context head children) := by
  simp only [initialValue]
  split
  · exact law.pure _
  · rename_i value hvalue
    have hmem : value ∈ children := (List.mem_filter.1 (List.mem_of_getLast? hvalue)).1
    generalize (if value.kind = .initList then some InitStyle.listed
      else initStyle? head.nameOffset head.tokens) = style
    split
    · exact law.bind (holds_expression context value (h.of_mem hmem)) fun _ => law.pure _
    · exact law.pure _

theorem holds_variableOf {cursor : Cursor} (h : law.Covers context cursor.heads) :
    law.Holds (variableOf context cursor) :=
  law.bind (holds_variableHead law context cursor.head false) fun _ =>
    law.bind (holds_initialValue context cursor.head h.children) fun _ => law.pure _

/-! ### Loops -/

theorem holds_placeClause (header : ForHeader) (clauses : ForClauses) {cursor : Cursor}
    (h : law.Covers context cursor.heads) {node : Build Node} (hnode : law.Holds node) :
    law.Holds (placeClause context header clauses cursor node) := by
  simp only [placeClause]
  split
  · exact law.bind hnode fun _ => law.pure _
  split
  · split
    · exact law.pure _
    · exact law.bind (holds_expression context cursor h) fun _ => law.pure _
  split
  · exact law.bind (holds_expression context cursor h) fun _ => law.pure _
  · exact law.pure _

theorem holds_placeClauses (header : ForHeader) (clauses : ForClauses)
    {placed : List (Cursor × Build Node)}
    (hplaced : ∀ entry ∈ placed,
      law.Covers context entry.1.heads ∧ law.Holds entry.2) :
    law.Holds (placeClauses context header clauses placed) := by
  induction placed generalizing clauses with
  | nil => exact law.pure _
  | cons entry rest ih =>
      rw [List.forall_mem_cons] at hplaced
      rw [placeClauses]
      exact law.bind (holds_placeClause context header clauses hplaced.1.1 hplaced.1.2)
        fun clauses => ih clauses hplaced.2

theorem holds_forNode (head : CursorHead) {children : List Cursor}
    (h : law.Covers context (Cursor.headsOf children)) {nodes : List (Build Node)}
    (hnodes : ∀ action ∈ nodes, law.Holds action) :
    law.Holds (forNode context head children nodes) := by
  simp only [forNode]
  split
  · exact law.pure _
  · rename_i body hbody
    refine law.bind (holds_placeClauses context _ {} ?_) fun clauses => ?_
    · intro entry hentry
      obtain ⟨hcursor, hnode⟩ := List.of_mem_zip ((List.dropLast_sublist _).subset hentry)
      exact ⟨h.of_mem hcursor, hnodes entry.2 hnode⟩
    · exact law.bind (hnodes body (List.mem_of_getLast? hbody)) fun _ => law.pure _

/-! ### Statements -/

theorem holds_conditionVariable {children : List Cursor}
    (h : law.Covers context (Cursor.headsOf children)) :
    law.Holds (conditionVariable context children) := by
  simp only [conditionVariable]
  split
  · split
    · exact law.bind (holds_variableOf context h.first) fun _ => law.pure _
    · exact law.pure _
  · exact law.pure _

theorem holds_nodeAt {nodes : List (Build Node)} (hnodes : ∀ action ∈ nodes, law.Holds action)
    (index : Nat) : law.Holds (nodeAt nodes index) := by
  rw [nodeAt, List.getD_eq_getElem?_getD]
  cases hnode : nodes[index]? with
  | none => exact law.pure _
  | some node => exact hnodes node (List.mem_of_getElem? hnode)

theorem holds_expressionAt {children : List Cursor}
    (h : law.Covers context (Cursor.headsOf children)) (index : Nat) :
    law.Holds (expressionAt context children index) := by
  simp only [expressionAt]
  split
  · rename_i child hchild
    exact holds_expression context child (h.of_mem (List.mem_of_getElem? hchild))
  · exact law.pure _

/-- The node of a statement has a property if those of its parts and its literals have it. -/
theorem holds_statementNode {head : CursorHead} {children arguments : List Cursor}
    (h : law.Covers context (Cursor.mk head children arguments).heads)
    {nodes declared : List (Build Node)} (hnodes : ∀ action ∈ nodes, law.Holds action)
    (hdeclared : ∀ action ∈ declared, law.Holds action) :
    law.Holds (statementNode context head children arguments nodes declared) := by
  simp only [statementNode]
  split
  · exact law.bind (law.holds_inOrder hnodes) fun _ => law.pure _
  -- a choice and a loop that tests first may declare a variable in the condition
  · refine law.bind (holds_conditionVariable context h.children) fun declared => ?_
    refine law.bind (holds_expressionAt context h.children _) fun condition => ?_
    refine law.bind (holds_nodeAt hnodes _) fun thenBranch => ?_
    exact law.bind (holds_nodeAt hnodes _) fun _ => law.pure _
  · refine law.bind (holds_conditionVariable context h.children) fun declared => ?_
    refine law.bind (holds_expressionAt context h.children _) fun condition => ?_
    exact law.bind (holds_nodeAt hnodes _) fun _ => law.pure _
  · exact holds_forNode context head h.children hnodes
  · refine law.bind (holds_nodeAt hnodes _) fun body => ?_
    exact law.bind (holds_expressionAt context h.children _) fun _ => law.pure _
  · exact law.bind (holds_expressionAt context h.children _) fun _ => law.pure _
  · exact law.bind (law.holds_inOrder hdeclared) fun _ => law.pure _
  -- ends of loops and rounds, empty statements and jumps have no parts
  · exact law.pure _
  · exact law.pure _
  · exact law.pure _
  · exact law.pure _
  · exact law.bind (holds_nodeAt hnodes _) fun _ => law.pure _
  -- any other cursor: a statement that is known by name, an expression, or neither
  · split
    · exact law.pure _
    · split
      · exact holds_expression context _ h
      · exact law.pure _

/-! ### Declarations -/

variable (law) in
theorem holds_functionNode (head : CursorHead) (parameters : List Cursor)
    {body : Option (Build Node)} (hbody : ∀ action, body = some action → law.Holds action) :
    law.Holds (functionNode context head parameters body) := by
  simp only [functionNode]
  refine law.bind (law.holds_inOrder (List.forall_mem_map.2 fun parameter _ =>
    holds_parameterOf law context parameter)) fun params => ?_
  refine law.bind (holds_valueType law context head.resultType) fun result => ?_
  split
  · rename_i action haction
    have hsome : body = some action := by
      split at haction
      · exact haction
      · simp at haction
    exact law.bind (hbody action hsome) fun _ => law.pure _
  · exact law.pure _

/-- The node of a declaration has a property if that of its body and its literals have it. -/
theorem holds_declarationNode {head : CursorHead} {children arguments : List Cursor}
    (h : law.Covers context (Cursor.mk head children arguments).heads)
    {body : Option (Build Node)} (hbody : ∀ action, body = some action → law.Holds action) :
    law.Holds (declarationNode context head children arguments body) := by
  simp only [declarationNode]
  split
  · exact holds_functionNode law context head arguments hbody
  split
  · exact law.bind (holds_variableOf context h) fun _ => law.pure _
  split
  · exact law.bind (holds_fieldOf law context _ _ _) fun _ => law.pure _
  split
  · exact holds_recordOf law context head children
  split <;> exact law.pure _

mutual

/-- **The node of a cursor as a statement has a property that its literals have.** -/
theorem holds_statement : ∀ cursor, law.Covers context cursor.heads →
    law.Holds (statement context cursor)
  | .mk head children arguments, h => by
      rw [statement]
      exact holds_statementNode context h (holds_statements children h.children)
        (holds_declarations children h.children)

theorem holds_statements : ∀ cursors, law.Covers context (Cursor.headsOf cursors) →
    ∀ action ∈ statements context cursors, law.Holds action
  | [], _, action, haction => by simp [statements] at haction
  | cursor :: rest, h, action, haction => by
      rw [statements] at haction
      rcases List.mem_cons.1 haction with rfl | haction
      · exact holds_statement cursor h.first
      · exact holds_statements rest h.rest action haction

/-- **The node of a cursor as a declaration has a property that its literals have.** -/
theorem holds_declaration : ∀ cursor, law.Covers context cursor.heads →
    law.Holds (declaration context cursor)
  | .mk head children arguments, h => by
      rw [declaration]
      exact holds_declarationNode context h (holds_body children h.children)

theorem holds_declarations : ∀ cursors, law.Covers context (Cursor.headsOf cursors) →
    ∀ action ∈ declarations context cursors, law.Holds action
  | [], _, action, haction => by simp [declarations] at haction
  | cursor :: rest, h, action, haction => by
      rw [declarations] at haction
      rcases List.mem_cons.1 haction with rfl | haction
      · exact holds_declaration cursor h.first
      · exact holds_declarations rest h.rest action haction

theorem holds_body : ∀ cursors, law.Covers context (Cursor.headsOf cursors) →
    ∀ action, body context cursors = some action → law.Holds action
  | [], _, action, haction => by simp [body] at haction
  | .mk head children _ :: rest, h, action, haction => by
      rw [body] at haction
      split at haction
      · cases haction
        exact law.bind (law.holds_inOrder (holds_statements children h.first.children))
          fun _ => law.pure _
      · exact holds_body rest h.rest action haction

end

/-! ### Programs -/

variable (law) in
/-- **The declarations of a program have a property that the literals in them have.** -/
theorem holds_buildUnit (names : Text.CharacterNames) (mainFile : String) (mainFileOnly : Bool)
    {cursors : List Cursor}
    (h : ∀ cursor ∈ cursors,
      isOwnDeclaration (.ofCursors names mainFile mainFileOnly cursors) cursor = true →
        law.Covers (.ofCursors names mainFile mainFileOnly cursors) cursor.heads) :
    law.Holds (buildUnit names mainFile mainFileOnly cursors) := by
  refine law.holds_inOrder (List.forall_mem_map.2 fun cursor hcursor => ?_)
  rw [List.mem_filter] at hcursor
  exact holds_declaration _ cursor (h cursor hcursor.1 hcursor.2)

end Building

end TeachingTree

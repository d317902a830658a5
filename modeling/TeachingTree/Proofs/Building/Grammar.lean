/-
**The trees that are built are of the grammar.**

Any cursor may stand anywhere below another one, and its kind may be of any sort.  Still the nodes
that are made of cursors go where they belong: as an expression, every cursor becomes an expression
or a construct outside the subset; as a statement it becomes a statement or one of these; and as a
declaration it becomes a declaration.  The nodes of the parts of a cursor are made before the node
of the cursor, so that one lemma for each sort of cursor and one induction over the cursors are
enough.

Main results:

* `yields_expressionNode`, `yields_statementNode`, `yields_declarationNode` — the node of a cursor
  is of the grammar if the nodes of its parts are;
* `yields_expression`, `yields_statement`, `yields_declaration` — **the node of a cursor is of the
  grammar**;
* `yields_buildUnit` — so are the declarations of a program.
-/

import TeachingTree.Proofs.Building.Outcome

set_option relaxedAutoImplicit false
set_option autoImplicit false

namespace TeachingTree.Building

open Build

/-! ### Leaves -/

theorem grammatical_unmodeled (kindName : String) (position : Position) :
    Grammatical .expression (.unmodeled kindName position) := .leaf rfl rfl trivial rfl

theorem grammatical_absent : Grammatical .expression .absent := .leaf rfl rfl trivial rfl

theorem grammatical_integerNode (macros : MacroTable) (head : CursorHead) :
    Grammatical .expression (integerNode macros head) := by
  simp only [integerNode]
  split
  · exact .leaf rfl rfl trivial rfl
  · split
    · exact .leaf rfl rfl trivial rfl
    · exact grammatical_unmodeled _ _

theorem yields_floatingNode (macros : MacroTable) (head : CursorHead) :
    Yields (Grammatical .expression) (floatingNode macros head) := by
  have hnumber : ∀ x, Grammatical .expression (.floating x head.position) :=
    fun x => .leaf rfl rfl trivial rfl
  simp only [floatingNode]
  split
  · split
    · exact .pure (hnumber _)
    · exact yields_stop _
  · exact .pure (hnumber _)
  · split
    · exact .pure (hnumber _)
    · exact yields_stop _
    · exact .pure (grammatical_unmodeled _ _)

theorem yields_characterNode (context : Context) (head : CursorHead) :
    Yields (Grammatical .expression) (characterNode context head) := by
  simp only [characterNode]
  split
  · exact .pure (.leaf rfl rfl trivial rfl)
  · exact yields_stop _

theorem yields_stringNode (context : Context) (head : CursorHead) :
    Yields (Grammatical .expression) (stringNode context head) := by
  simp only [stringNode]
  split
  · exact .pure (.leaf rfl rfl trivial rfl)
  · exact yields_stop _

/-! ### Expressions -/

/-- The parts of an expression whose nodes are expressions. -/
structure ExpressionParts.Sound (parts : ExpressionParts) : Prop where
  operands : ∀ action ∈ parts.operands, Yields (Grammatical .expression) action
  arguments : ∀ action ∈ parts.arguments, Yields (Grammatical .expression) action
  receiver : ∀ action, parts.receiver = some action → Yields (Grammatical .expression) action
  converted : ∀ action, parts.converted = some action → Yields (Grammatical .expression) action

section Expression

variable (context : Context) (head : CursorHead) {parts : ExpressionParts}

theorem yields_unmodeled (kindName : String) :
    Yields (Grammatical .expression) (pure (.unmodeled kindName head.position) : Build Node) :=
  .pure (grammatical_unmodeled kindName head.position)

theorem yields_unaryNode (h : parts.Sound) (operands : List Cursor) :
    Yields (Grammatical .expression) (unaryNode head operands parts) := by
  simp only [unaryNode]
  split
  · rename_i node _ _ hoperands _
    refine (h.operands node (by simp [hoperands])).bind fun operand hoperand => .pure ?_
    exact .of_places rfl rfl trivial (by simp [Node.places, hoperand])
  · exact yields_unmodeled head _

theorem yields_binaryNode (h : parts.Sound) (operands : List Cursor) :
    Yields (Grammatical .expression) (binaryNode head operands parts) := by
  simp only [binaryNode]
  split
  · rename_i lhs rhs hoperands
    refine (h.operands lhs (by simp [hoperands])).bind fun left hleft => ?_
    refine (h.operands rhs (by simp [hoperands])).bind fun right hright => .pure ?_
    exact .of_places rfl rfl trivial (by simp [Node.places, hleft, hright])
  · exact yields_unmodeled head _

theorem grammatical_field {role : Role} {f : Field} (hrole : role.admits (.field f) = true)
    (h : f.type.Complete) : Grammatical role (.field f) :=
  .intro hrole ⟨by simpa [Node.types] using h, trivial⟩ (List.forall_mem_nil _)

theorem yields_memberNode (h : parts.Sound) :
    Yields (Grammatical .expression) (memberNode context head parts) := by
  simp only [memberNode]
  split
  · rename_i referent base rest _ hoperands
    split
    · refine (h.operands base (by simp [hoperands])).bind fun value hvalue => ?_
      refine (yields_fieldOf context _ _ _).bind fun declared hdeclared => .pure ?_
      have hfield : Grammatical .member (.field declared) := grammatical_field rfl hdeclared
      exact .of_places rfl rfl trivial (by simp [Node.places, hvalue, hfield])
    · exact yields_unmodeled head _
  · exact yields_unmodeled head _

theorem yields_plainCallNode (h : parts.Sound) (children : List Cursor) :
    Yields (Grammatical .expression) (plainCallNode head children parts) := by
  simp only [plainCallNode]
  refine (Yields.inOrder h.arguments).bind fun arguments harguments => ?_
  split
  · split
    · rename_i receiver hreceiver
      refine (h.receiver receiver hreceiver).bind fun value hvalue => .pure ?_
      exact .of_places rfl rfl trivial
        (List.forall_mem_cons.2 ⟨hvalue, List.forall_mem_map.2 harguments⟩)
    · exact .pure (grammatical_unmodeled _ _)
  · split <;> exact .pure (.of_places rfl rfl trivial (List.forall_mem_map.2 harguments))

theorem yields_callNode (h : parts.Sound) (children written : List Cursor) :
    Yields (Grammatical .expression) (callNode head children written parts) := by
  simp only [callNode]
  split
  · split
    · rename_i argument harguments
      exact h.arguments argument (by simp [harguments])
    · exact yields_unmodeled head _
  · split
    · split
      · rename_i value hconverted
        exact h.converted value hconverted
      · exact yields_plainCallNode head h children
    · exact yields_plainCallNode head h children

theorem yields_wrappedNode (h : parts.Sound) :
    Yields (Grammatical .expression) (wrappedNode head parts) := by
  simp only [wrappedNode]
  split
  · exact .pure grammatical_absent
  · rename_i inner hoperands
    exact h.operands inner (by simp [hoperands])
  · exact yields_unmodeled head _

/-- **An expression is of the grammar if its parts are.** -/
theorem yields_expressionNode (h : parts.Sound) (children arguments : List Cursor) :
    Yields (Grammatical .expression) (expressionNode context head children arguments parts) := by
  simp only [expressionNode]
  -- the cases follow the kinds of cursors: literals, names, operators, members, calls, wrappers
  split
  · exact .pure (grammatical_integerNode _ _)
  · exact yields_floatingNode _ _
  · exact yields_characterNode _ _
  · exact yields_stringNode _ _
  · exact .pure (.leaf rfl rfl trivial rfl)
  · refine (yields_nameType context head.type).bind fun type htype => .pure ?_
    exact .intro rfl ⟨by simpa [Node.types] using htype, trivial⟩ (List.forall_mem_nil _)
  · exact yields_unaryNode head h _
  · exact yields_binaryNode head h _
  · exact yields_binaryNode head h _
  · exact yields_memberNode context head h
  · split
    · rename_i base index hoperands
      refine (h.operands base (by simp [hoperands])).bind fun value hvalue => ?_
      refine (h.operands index (by simp [hoperands])).bind fun offset hoffset => .pure ?_
      exact .of_places rfl rfl trivial (by simp [Node.places, hvalue, hoffset])
    · exact yields_unmodeled head _
  · exact yields_callNode head h children _
  · split
    · exact yields_wrappedNode head h
    · exact yields_unmodeled head _

end Expression

variable (context : Context)

mutual

/-- **As an expression, every cursor becomes an expression** of the grammar. -/
theorem yields_expression : ∀ cursor, Yields (Grammatical .expression) (expression context cursor)
  | .mk head children arguments => by
      rw [expression]
      exact yields_expressionNode context head
        ⟨yields_expressions children, yields_writtenArguments arguments, yields_receiver children,
          yields_converted children⟩ children arguments

theorem yields_expressions : ∀ cursors, ∀ action ∈ expressions context cursors,
    Yields (Grammatical .expression) action
  | [], action, h => by simp [expressions] at h
  | cursor :: rest, action, h => by
      rw [expressions] at h
      split at h
      · rcases List.mem_cons.1 h with rfl | h
        · exact yields_expression cursor
        · exact yields_expressions rest action h
      · exact yields_expressions rest action h

theorem yields_writtenArguments : ∀ cursors, ∀ action ∈ writtenArguments context cursors,
    Yields (Grammatical .expression) action
  | [], action, h => by simp [writtenArguments] at h
  | argument :: rest, action, h => by
      rw [writtenArguments] at h
      split at h
      · exact yields_writtenArguments rest action h
      · rcases List.mem_cons.1 h with rfl | h
        · exact yields_expression argument
        · exact yields_writtenArguments rest action h

theorem yields_receiver : ∀ cursors action, receiver context cursors = some action →
    Yields (Grammatical .expression) action
  | [], action, h => by simp [receiver] at h
  | .mk _ children _ :: _, action, h => by
      rw [receiver] at h
      exact yields_expressions children action (List.mem_of_mem_head? h)

theorem yields_converted : ∀ cursors action, converted context cursors = some action →
    Yields (Grammatical .expression) action
  | [], action, h => by simp [converted] at h
  | .mk head children _ :: rest, action, h => by
      rw [converted] at h
      split at h
      · exact yields_expressions children action (List.mem_of_mem_head? h)
      · exact yields_converted rest action h

end

/-! ### Variables and records -/

/-- A variable is regular if its type is complete and its initial value is given directly. -/
theorem grammatical_var {head : VariableHead} {init : Node} (htype : head.type.Complete)
    (hinit : Grammatical .expression init)
    (hstyle : init ≠ .absent →
      head.initStyle = some .assigned ∨ head.initStyle = some .called) :
    Grammatical .declaration (.var (.mk head init)) :=
  .intro rfl ⟨by simpa [Node.types, Variable.head] using htype, hstyle⟩
    (by simpa [Node.places, Variable.init] using hinit)

theorem yields_variableHead (head : CursorHead) (isParameter : Bool) :
    Yields (fun v : VariableHead => v.type.Complete) (variableHead context head isParameter) :=
  (yields_pointedType context _).bind fun _ htype => .pure htype

theorem eq_of_isDirect {style : Option InitStyle}
    (h : (style.map InitStyle.isDirect).getD false = true) :
    style = some .assigned ∨ style = some .called := by
  match style with
  | some .assigned => exact .inl rfl
  | some .called => exact .inr rfl

/-- What is known of an initial value and its style. -/
structure InitialValue (value : Option InitStyle × Node) : Prop where
  init : Grammatical .expression value.2
  style : value.2 ≠ .absent → value.1 = some .assigned ∨ value.1 = some .called

theorem yields_initialValue (head : CursorHead) (children : List Cursor) :
    Yields InitialValue (initialValue context head children) := by
  simp only [initialValue]
  split
  · exact .pure ⟨grammatical_absent, fun h => absurd rfl h⟩
  · rename_i value _
    generalize (if value.kind = .initList then some InitStyle.listed
      else initStyle? head.nameOffset head.tokens) = style
    split
    · rename_i hdirect
      exact (yields_expression context _).bind fun init hinit =>
        .pure ⟨hinit, fun _ => eq_of_isDirect hdirect⟩
    · exact .pure ⟨grammatical_absent, fun h => absurd rfl h⟩

theorem yields_variableOf (cursor : Cursor) :
    Yields (fun v => Grammatical .declaration (.var v)) (variableOf context cursor) :=
  (yields_variableHead context cursor.head false).bind fun _ htype =>
    (yields_initialValue context cursor.head cursor.children).bind fun _ hvalue =>
      .pure (grammatical_var htype hvalue.init hvalue.style)

theorem yields_parameterOf (cursor : Cursor) :
    Yields (fun v => Grammatical .declaration (.var v)) (parameterOf context cursor) :=
  (yields_variableHead context cursor.head true).bind fun _ htype =>
    .pure (grammatical_var htype grammatical_absent fun h => absurd rfl h)

theorem yields_memberOf (cursor : Cursor) :
    Yields (fun found : Option Node => ∀ node, found = some node → Grammatical .member node)
      (memberOf context cursor) := by
  simp only [memberOf]
  split
  · refine (yields_fieldOf context _ _ _).bind fun f hf => .pure ?_
    rintro _ ⟨⟩
    exact grammatical_field rfl hf
  split
  · refine .pure ?_
    rintro _ ⟨⟩
    exact .leaf rfl rfl trivial rfl
  split
  · refine .pure ?_
    rintro _ ⟨⟩
    exact .leaf rfl rfl trivial rfl
  · exact .pure fun _ h => by simp at h

theorem yields_recordOf (head : CursorHead) (children : List Cursor) :
    Yields (Grammatical .declaration) (recordOf context head children) := by
  simp only [recordOf]
  refine (Yields.inOrder (List.forall_mem_map.2 fun child _ => yields_memberOf context child)).bind
    fun members hmembers => .pure (.of_places rfl rfl trivial (List.forall_mem_map.2 ?_))
  intro member hmember
  obtain ⟨found, hfound, hsome⟩ := List.mem_filterMap.1 hmember
  exact hmembers found hfound member hsome

/-! ### Loops -/

/-- The clauses of a loop that are of the grammar. -/
structure ForClauses.Sound (clauses : ForClauses) : Prop where
  init : Grammatical .statement clauses.init
  condition : Grammatical .expression clauses.condition
  increment : Grammatical .expression clauses.increment

theorem yields_placeClause (header : ForHeader) {clauses : ForClauses} (h : clauses.Sound)
    (cursor : Cursor) {node : Build Node} (hnode : Yields (Grammatical .statement) node) :
    Yields ForClauses.Sound (placeClause context header clauses cursor node) := by
  simp only [placeClause]
  split
  · exact hnode.bind fun init hinit => .pure { h with init := hinit }
  split
  · split
    · exact .pure h
    · exact (yields_expression context cursor).bind fun condition hcondition =>
        .pure { h with condition := hcondition }
  split
  · exact (yields_expression context cursor).bind fun increment hincrement =>
      .pure { h with increment := hincrement }
  · exact .pure h

theorem yields_placeClauses (header : ForHeader) {clauses : ForClauses} (h : clauses.Sound)
    {placed : List (Cursor × Build Node)}
    (hplaced : ∀ entry ∈ placed, Yields (Grammatical .statement) entry.2) :
    Yields ForClauses.Sound (placeClauses context header clauses placed) := by
  induction placed generalizing clauses with
  | nil => exact .pure h
  | cons entry rest ih =>
      rw [List.forall_mem_cons] at hplaced
      rw [placeClauses]
      exact (yields_placeClause context header h entry.1 hplaced.1).bind fun clauses hclauses =>
        ih hclauses hplaced.2

theorem yields_forNode (head : CursorHead) (children : List Cursor) {nodes : List (Build Node)}
    (hnodes : ∀ action ∈ nodes, Yields (Grammatical .statement) action) :
    Yields (Grammatical .statement) (forNode context head children nodes) := by
  have hnothing : ForClauses.Sound {} :=
    ⟨grammatical_absent.statement, grammatical_absent, grammatical_absent⟩
  simp only [forNode]
  split
  · exact .pure (.of_places rfl rfl trivial
      (by simp [Node.places, grammatical_absent, grammatical_absent.statement]))
  · rename_i body hbody
    refine (yields_placeClauses context _ hnothing ?_).bind fun clauses hclauses => ?_
    · intro entry hentry
      exact hnodes entry.2 (List.of_mem_zip ((List.dropLast_sublist _).subset hentry)).2
    · refine (hnodes body (List.mem_of_getLast? hbody)).bind fun stmt hstmt => .pure ?_
      exact .of_places rfl rfl trivial
        (by simp [Node.places, hclauses.init, hclauses.condition, hclauses.increment, hstmt])

/-! ### Statements -/

theorem yields_conditionVariable (children : List Cursor) :
    Yields (fun declared => ∀ place ∈ Node.declaredPlaces declared,
      Grammatical place.1 place.2) (conditionVariable context children) := by
  simp only [conditionVariable]
  split
  · split
    · exact (yields_variableOf context _).bind fun v hv =>
        .pure (by simpa [Node.declaredPlaces] using hv)
    · exact .pure (by simp [Node.declaredPlaces])
  · exact .pure (by simp [Node.declaredPlaces])

theorem yields_nodeAt {nodes : List (Build Node)}
    (hnodes : ∀ action ∈ nodes, Yields (Grammatical .statement) action) (index : Nat) :
    Yields (Grammatical .statement) (nodeAt nodes index) := by
  rw [nodeAt, List.getD_eq_getElem?_getD]
  cases hnode : nodes[index]? with
  | none => exact .pure grammatical_absent.statement
  | some node => exact hnodes node (List.mem_of_getElem? hnode)

theorem yields_expressionAt (children : List Cursor) (index : Nat) :
    Yields (Grammatical .expression) (expressionAt context children index) := by
  simp only [expressionAt]
  split
  · exact yields_expression context _
  · exact .pure grammatical_absent

/-- **A statement is of the grammar if its parts are.** -/
theorem yields_statementNode (head : CursorHead) (children arguments : List Cursor)
    {nodes declared : List (Build Node)}
    (hnodes : ∀ action ∈ nodes, Yields (Grammatical .statement) action)
    (hdeclared : ∀ action ∈ declared, Yields (Grammatical .declaration) action) :
    Yields (Grammatical .statement)
      (statementNode context head children arguments nodes declared) := by
  have hleaf : ∀ {node : Node}, Role.statement.admits node = true → node.types = [] →
      node.KeepsPromise → node.places = [] → Yields (Grammatical .statement) (pure node) :=
    fun hadmits htypes hpromise hplaces => .pure (.leaf hadmits htypes hpromise hplaces)
  simp only [statementNode]
  split
  · exact (Yields.inOrder hnodes).bind fun body hbody =>
      .pure (.of_places rfl rfl trivial (List.forall_mem_map.2 hbody))
  -- a choice and a loop that tests first may declare a variable in the condition
  · refine (yields_conditionVariable context children).bind fun declared hdeclared => ?_
    refine (yields_expressionAt context children _).bind fun condition hcondition => ?_
    refine (yields_nodeAt hnodes _).bind fun thenBranch hthen => ?_
    refine (yields_nodeAt hnodes _).bind fun elseBranch helse => .pure ?_
    exact .of_places rfl rfl trivial
      (List.forall_mem_append.2 ⟨hdeclared, by simp [hcondition, hthen, helse]⟩)
  · refine (yields_conditionVariable context children).bind fun declared hdeclared => ?_
    refine (yields_expressionAt context children _).bind fun condition hcondition => ?_
    refine (yields_nodeAt hnodes _).bind fun body hbody => .pure ?_
    exact .of_places rfl rfl trivial
      (List.forall_mem_append.2 ⟨hdeclared, by simp [hcondition, hbody]⟩)
  · exact yields_forNode context head children hnodes
  · refine (yields_nodeAt hnodes _).bind fun body hbody => ?_
    refine (yields_expressionAt context children _).bind fun condition hcondition => .pure ?_
    exact .of_places rfl rfl trivial (by simp [Node.places, hbody, hcondition])
  · refine (yields_expressionAt context children _).bind fun value hvalue => .pure ?_
    exact .of_places rfl rfl trivial (by simp [Node.places, hvalue])
  · exact (Yields.inOrder hdeclared).bind fun decls hdecls =>
      .pure (.of_places rfl rfl trivial (List.forall_mem_map.2 hdecls))
  -- ends of loops and rounds, empty statements and jumps have no parts
  · exact hleaf rfl rfl trivial rfl
  · exact hleaf rfl rfl trivial rfl
  · exact hleaf rfl rfl trivial rfl
  · exact hleaf rfl rfl trivial rfl
  · refine (yields_nodeAt hnodes _).bind fun sub hsub => .pure ?_
    exact .of_places rfl rfl trivial (by simp [Node.places, hsub])
  -- any other cursor: a statement that is known by name, an expression, or neither
  · split
    · exact hleaf rfl rfl trivial rfl
    · split
      · exact (yields_expression context _).mono fun _ h => h.statement
      · exact .pure (grammatical_unmodeled _ _).statement

/-! ### Declarations -/

/-- A block that a function may have as its body. -/
def IsBody (node : Node) : Prop := Grammatical .statement node ∧ node ≠ .absent

theorem yields_functionNode (head : CursorHead) (parameters : List Cursor)
    {body : Option (Build Node)} (hbody : ∀ action, body = some action → Yields IsBody action) :
    Yields (Grammatical .declaration) (functionNode context head parameters body) := by
  simp only [functionNode]
  refine (Yields.inOrder (List.forall_mem_map.2 fun parameter _ =>
    yields_parameterOf context parameter)).bind fun params hparams => ?_
  refine (yields_valueType context head.resultType).bind fun result hresult => ?_
  have hfunction : ∀ {stmt : Node} {isDefinition : Bool}, Grammatical .statement stmt →
      (stmt ≠ .absent ↔ isDefinition = true) → Grammatical .declaration
        (.function head.spelling result params stmt isDefinition head.position) :=
    fun hstmt hiff => .intro rfl ⟨by simpa [Node.types] using hresult, hiff⟩
      (List.forall_mem_append.2 ⟨List.forall_mem_map.2 hparams, by simpa using hstmt⟩)
  split
  · rename_i action haction
    have hsome : body = some action := by
      split at haction
      · exact haction
      · simp at haction
    exact (hbody action hsome).bind fun stmt hstmt =>
      .pure (hfunction hstmt.1 ⟨fun _ => rfl, fun _ => hstmt.2⟩)
  · exact .pure (hfunction grammatical_absent.statement (by simp))

/-- **As a declaration, every cursor becomes a declaration** of the grammar if the body among its
children is. -/
theorem yields_declarationNode (head : CursorHead) (children arguments : List Cursor)
    {body : Option (Build Node)} (hbody : ∀ action, body = some action → Yields IsBody action) :
    Yields (Grammatical .declaration)
      (declarationNode context head children arguments body) := by
  simp only [declarationNode]
  split
  · exact yields_functionNode context head arguments hbody
  split
  · exact (yields_variableOf context _).bind fun _ hv => .pure hv
  split
  · exact (yields_fieldOf context _ _ _).bind fun _ hf => .pure (grammatical_field rfl hf)
  split
  · exact yields_recordOf context head children
  split
  · exact .pure (.leaf rfl rfl trivial rfl)
  · exact .pure (.leaf rfl rfl trivial rfl)

mutual

/-- **As a statement, every cursor becomes a statement** of the grammar. -/
theorem yields_statement : ∀ cursor, Yields (Grammatical .statement) (statement context cursor)
  | .mk head children arguments => by
      rw [statement]
      exact yields_statementNode context head children arguments (yields_statements children)
        (yields_declarations children)

theorem yields_statements : ∀ cursors, ∀ action ∈ statements context cursors,
    Yields (Grammatical .statement) action
  | [], action, h => by simp [statements] at h
  | cursor :: rest, action, h => by
      rw [statements] at h
      rcases List.mem_cons.1 h with rfl | h
      · exact yields_statement cursor
      · exact yields_statements rest action h

theorem yields_declaration :
    ∀ cursor, Yields (Grammatical .declaration) (declaration context cursor)
  | .mk head children arguments => by
      rw [declaration]
      exact yields_declarationNode context head children arguments (yields_body children)

theorem yields_declarations : ∀ cursors, ∀ action ∈ declarations context cursors,
    Yields (Grammatical .declaration) action
  | [], action, h => by simp [declarations] at h
  | cursor :: rest, action, h => by
      rw [declarations] at h
      rcases List.mem_cons.1 h with rfl | h
      · exact yields_declaration cursor
      · exact yields_declarations rest action h

theorem yields_body : ∀ cursors action, body context cursors = some action → Yields IsBody action
  | [], action, h => by simp [body] at h
  | .mk head children _ :: rest, action, h => by
      rw [body] at h
      split at h
      · cases h
        exact (Yields.inOrder (yields_statements children)).bind fun stmts hstmts =>
          .pure ⟨.of_places rfl rfl trivial (List.forall_mem_map.2 hstmts), nofun⟩
      · exact yields_body rest action h

end

/-! ### Programs -/

/-- **The declarations of a program are of the grammar.** -/
theorem yields_buildUnit (names : Text.CharacterNames) (mainFile : String) (mainFileOnly : Bool)
    (cursors : List Cursor) :
    Yields (fun decls => ∀ decl ∈ decls, Grammatical .declaration decl)
      (buildUnit names mainFile mainFileOnly cursors) := by
  simp only [buildUnit]
  exact Yields.inOrder (List.forall_mem_map.2 fun cursor _ => yields_declaration _ cursor)

end TeachingTree.Building

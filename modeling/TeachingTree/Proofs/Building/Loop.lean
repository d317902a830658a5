/-
**The clauses of a loop header.**

The header of a loop has three clauses, each of which may be empty, and the parser exposes no cursor
for an empty one.  So the cursors below a loop are told apart by the tokens: each belongs to the
clause in which it starts, and the clauses end at the two semicolons and at the parenthesis that
closes the header.

The semicolons and the parenthesis are found by counting parentheses.  A clause closes all
parentheses that it opens and has semicolons only inside of them, so the count goes through it
without a mark, and the marks of the header are found whatever the clauses are and whatever follows
the header.

Main definitions:

* `isClause` — whether tokens can be a clause;
* `LoopHeader` — the tokens of a header, and `LoopHeader.tokens`, the tokens of a loop;
* `Building.clauseNode`, `Building.testNode` — what becomes of the cursor of a clause, if there is
  one.

Main results:

* `headerMarks_append` — the count goes through a clause;
* `LoopHeader.ofTokens_tokens` — the header is found at the start of the tokens of a loop;
* `Building.placeClauses_header` — every cursor is placed in the clause in which it starts;
* `Building.statement_loop` — **a loop is built from the cursors that start in its clauses**.
-/

import TeachingTree.Building.Program

set_option relaxedAutoImplicit false
set_option autoImplicit false

namespace TeachingTree

/-! ### Clauses -/

/-- Whether tokens, behind some open parentheses, close these and all that they open, and have
semicolons only inside parentheses. -/
def isClause : Nat → List Token → Bool
  | depth, [] => depth == 0
  | depth, token :: rest =>
    if token.spelling == "(" then isClause (depth + 1) rest
    else if token.spelling == ")" then 0 < depth && isClause (depth - 1) rest
    else if token.spelling == ";" then 0 < depth && isClause depth rest
    else isClause depth rest

/-- The count goes through a clause without a mark.  One more parenthesis is open than the clause
knows of: the one of the header. -/
theorem headerMarks_append {depth : Nat} {clause : List Token} (h : isClause depth clause = true)
    (rest : List Token) : headerMarks (depth + 1) (clause ++ rest) = headerMarks 1 rest := by
  induction clause generalizing depth with
  | nil =>
      have hzero : depth = 0 := by simpa [isClause] using h
      simp [hzero]
  | cons token clause ih =>
      rw [isClause] at h
      rw [List.cons_append, headerMarks]
      by_cases hopen : token.spelling == "("
      · rw [if_pos hopen] at h ⊢
        exact ih h
      rw [if_neg hopen] at h ⊢
      by_cases hclose : token.spelling == ")"
      · -- the parenthesis closes one of the clause, so the one of the header stays open
        rw [if_pos hclose, Bool.and_eq_true, decide_eq_true_eq] at h
        obtain ⟨hdepth, hrest⟩ := h
        have hinner : (depth : Int) + 1 ≠ 1 := by omega
        have hless : (depth : Int) + 1 - 1 = (depth - 1 : Nat) + 1 := by omega
        rw [if_pos hclose, if_neg hinner, hless]
        exact ih hrest
      rw [if_neg hclose] at h ⊢
      by_cases hsemicolon : token.spelling == ";"
      · rw [if_pos hsemicolon, Bool.and_eq_true, decide_eq_true_eq] at h
        obtain ⟨hdepth, hrest⟩ := h
        have hinner : ¬(token.spelling == ";" && (depth : Int) + 1 == 1) = true := by
          rw [Bool.and_eq_true, beq_iff_eq, beq_iff_eq]
          omega
        rw [if_neg hinner]
        exact ih hrest
      · rw [if_neg hsemicolon] at h
        rw [if_neg (by simp [hsemicolon])]
        exact ih h

/-! ### Headers -/

section Marks

variable {token : Token} (rest : List Token)

theorem headerMarks_keyword (h : token.spelling = "for") (depth : Int) :
    headerMarks depth (token :: rest) = headerMarks depth rest := by
  simp [headerMarks, h]

theorem headerMarks_opening (h : token.spelling = "(") (depth : Int) :
    headerMarks depth (token :: rest) = headerMarks (depth + 1) rest := by
  simp [headerMarks, h]

theorem headerMarks_semicolon (h : token.spelling = ";") :
    headerMarks 1 (token :: rest) =
      (token.start :: (headerMarks 1 rest).1, (headerMarks 1 rest).2) := by
  simp [headerMarks, h]

theorem headerMarks_closing (h : token.spelling = ")") :
    headerMarks 1 (token :: rest) = ([], token.start) := by
  simp [headerMarks, h]

end Marks

/-- The tokens of the header of a loop. -/
structure LoopHeader where
  /-- The word that starts the loop. -/
  keyword : Token
  /-- The parenthesis that opens the header. -/
  opening : Token
  /-- The first clause. -/
  init : List Token
  /-- The semicolon after the first clause. -/
  first : Token
  /-- The second clause. -/
  condition : List Token
  /-- The semicolon after the second clause. -/
  second : Token
  /-- The third clause. -/
  increment : List Token
  /-- The parenthesis that closes the header. -/
  closing : Token
  keyword_spelling : keyword.spelling = "for"
  opening_spelling : opening.spelling = "("
  first_spelling : first.spelling = ";"
  second_spelling : second.spelling = ";"
  closing_spelling : closing.spelling = ")"
  isClause_init : isClause 0 init = true
  isClause_condition : isClause 0 condition = true
  isClause_increment : isClause 0 increment = true

namespace LoopHeader

/-- The tokens of a loop with the header and with what follows the header. -/
def tokens (header : LoopHeader) (rest : List Token) : List Token :=
  header.keyword :: header.opening :: (header.init ++ header.first ::
    (header.condition ++ header.second :: (header.increment ++ header.closing :: rest)))

/-- Where the clauses of the header end. -/
def ends (header : LoopHeader) : ForHeader :=
  ⟨header.first.start, header.second.start, header.closing.start⟩

/-- The marks of a header are its semicolons and its parenthesis. -/
theorem headerMarks_tokens (header : LoopHeader) (rest : List Token) :
    headerMarks 0 (header.tokens rest) =
      ([header.first.start, header.second.start], header.closing.start) := by
  have hclause : ∀ {clause : List Token}, isClause 0 clause = true → ∀ behind,
      headerMarks 1 (clause ++ behind) = headerMarks 1 behind :=
    fun h behind => headerMarks_append h behind
  rw [tokens, headerMarks_keyword _ header.keyword_spelling,
    headerMarks_opening _ header.opening_spelling, Int.zero_add, hclause header.isClause_init,
    headerMarks_semicolon _ header.first_spelling, hclause header.isClause_condition,
    headerMarks_semicolon _ header.second_spelling, hclause header.isClause_increment,
    headerMarks_closing _ header.closing_spelling]

/-- **The header is found at the start of the tokens of a loop**, whatever follows it. -/
theorem ofTokens_tokens (header : LoopHeader) (rest : List Token) :
    ForHeader.ofTokens (header.tokens rest) = header.ends := by
  rw [ForHeader.ofTokens, headerMarks_tokens]
  rfl

/-- The first clause ends before the second one. -/
theorem first_lt_second (header : LoopHeader) {rest : List Token}
    (h : (header.tokens rest).Pairwise fun token later => token.start < later.start) :
    header.first.start < header.second.start := by
  rw [tokens, List.pairwise_cons, List.pairwise_cons, List.pairwise_append, List.pairwise_cons] at h
  obtain ⟨-, -, -, ⟨hfirst, -⟩, -⟩ := h
  exact hfirst _ (List.mem_append_right _ (List.mem_cons_self ..))

end LoopHeader

namespace Building

variable (context : Context)

/-! ### Placing -/

theorem statements_eq_map (cursors : List Cursor) :
    statements context cursors = cursors.map (statement context) := by
  induction cursors with
  | nil => rfl
  | cons cursor rest ih => rw [statements, List.map_cons, ih]

/-- What becomes of the cursor of a clause, if there is one. -/
def clauseNode (translate : Cursor → Build Node) : Option Cursor → Build Node
  | none => pure .absent
  | some cursor => translate cursor

/-- What becomes of a cursor in the second clause: a variable that is declared there is left out. -/
def testNode (cursor : Cursor) : Build Node :=
  if cursor.kind = .varDecl then pure .absent else expression context cursor

theorem placeClauses_append (header : ForHeader) (clauses : ForClauses)
    (front back : List (Cursor × Build Node)) :
    placeClauses context header clauses (front ++ back) =
      placeClauses context header clauses front >>= fun placed =>
        placeClauses context header placed back := by
  induction front generalizing clauses with
  | nil => rw [List.nil_append, placeClauses, pure_bind]
  | cons entry front ih =>
      obtain ⟨cursor, node⟩ := entry
      rw [List.cons_append, placeClauses, placeClauses, bind_assoc]
      exact bind_congr fun placed => ih placed

variable {header : ForHeader} {clauses : ForClauses} {cursor : Cursor} (node : Build Node)

theorem placeClause_init (h : cursor.head.startOffset < header.first) :
    placeClause context header clauses cursor node =
      (fun init => { clauses with init }) <$> node := by
  rw [placeClause, if_pos h, map_eq_pure_bind]

theorem placeClause_condition (hfirst : ¬cursor.head.startOffset < header.first)
    (hsecond : cursor.head.startOffset < header.second) (hempty : clauses.condition = .absent) :
    placeClause context header clauses cursor node =
      (fun condition => { clauses with condition }) <$> testNode context cursor := by
  rw [placeClause, if_neg hfirst, if_pos hsecond, testNode]
  split
  · rw [map_pure, ← hempty]
  · rw [map_eq_pure_bind]

theorem placeClause_increment (hfirst : ¬cursor.head.startOffset < header.first)
    (hsecond : ¬cursor.head.startOffset < header.second)
    (hclose : cursor.head.startOffset < header.close) :
    placeClause context header clauses cursor node =
      (fun increment => { clauses with increment }) <$> expression context cursor := by
  rw [placeClause, if_neg hfirst, if_neg hsecond, if_pos hclose, map_eq_pure_bind]

/-- The cursor of a clause is placed there, and without one the clause stays empty. -/
theorem placeClauses_option {place : Node → ForClauses} {translate : Cursor → Build Node}
    {child : Option Cursor} (hnone : place .absent = clauses)
    (hsome : ∀ cursor ∈ child, placeClause context header clauses cursor
      (statement context cursor) = place <$> translate cursor) :
    placeClauses context header clauses
        (child.toList.map fun cursor => (cursor, statement context cursor)) =
      place <$> clauseNode translate child := by
  cases child with
  | none =>
      rw [clauseNode, map_pure, hnone]
      rfl
  | some cursor =>
      simp only [Option.toList_some, List.map_cons, List.map_nil, placeClauses, bind_pure,
        clauseNode]
      exact hsome cursor rfl

end Building

/-- The cursors in the clauses of a header, at most one in each. -/
structure LoopHeader.Cursors (header : LoopHeader) where
  /-- The cursor that starts in the first clause. -/
  init : Option Cursor
  /-- The cursor that starts in the second clause. -/
  condition : Option Cursor
  /-- The cursor that starts in the third clause. -/
  increment : Option Cursor
  start_init : ∀ cursor ∈ init, header.opening.start < cursor.head.startOffset ∧
    cursor.head.startOffset < header.first.start
  start_condition : ∀ cursor ∈ condition, header.first.start < cursor.head.startOffset ∧
    cursor.head.startOffset < header.second.start
  start_increment : ∀ cursor ∈ increment, header.second.start < cursor.head.startOffset ∧
    cursor.head.startOffset < header.closing.start

/-- The cursors in their order. -/
def LoopHeader.Cursors.all {header : LoopHeader} (cursors : header.Cursors) : List Cursor :=
  cursors.init.toList ++ (cursors.condition.toList ++ cursors.increment.toList)

namespace Building

variable (context : Context)

/-- **Every cursor is placed in the clause in which it starts.** -/
theorem placeClauses_header {header : LoopHeader} (cursors : header.Cursors)
    (hends : header.first.start < header.second.start) :
    placeClauses context header.ends {}
        (cursors.all.map fun cursor => (cursor, statement context cursor)) = (do
      let init ← clauseNode (statement context) cursors.init
      let condition ← clauseNode (testNode context) cursors.condition
      let increment ← clauseNode (expression context) cursors.increment
      return { init, condition, increment }) := by
  have hinit : placeClauses context header.ends {}
      (cursors.init.toList.map fun cursor => (cursor, statement context cursor)) =
      (fun init => { init }) <$> clauseNode (statement context) cursors.init := by
    refine placeClauses_option context rfl ?_
    intro cursor hcursor
    exact placeClause_init context _ (cursors.start_init cursor hcursor).2
  have hcondition : ∀ init, placeClauses context header.ends { init }
      (cursors.condition.toList.map fun cursor => (cursor, statement context cursor)) =
      (fun condition => { init, condition }) <$>
        clauseNode (testNode context) cursors.condition := by
    intro init
    refine placeClauses_option context rfl ?_
    intro cursor hcursor
    obtain ⟨hafter, hbefore⟩ := cursors.start_condition cursor hcursor
    exact placeClause_condition context _ (Int.not_lt.2 (Int.le_of_lt hafter)) hbefore rfl
  have hincrement : ∀ init condition, placeClauses context header.ends { init, condition }
      (cursors.increment.toList.map fun cursor => (cursor, statement context cursor)) =
      (fun increment => { init, condition, increment }) <$>
        clauseNode (expression context) cursors.increment := by
    intro init condition
    refine placeClauses_option context rfl ?_
    intro cursor hcursor
    obtain ⟨hafter, hbefore⟩ := cursors.start_increment cursor hcursor
    have hfirst : ¬cursor.head.startOffset < header.first.start :=
      Int.not_lt.2 (Int.le_of_lt (Int.lt_trans hends hafter))
    exact placeClause_increment context _ hfirst (Int.not_lt.2 (Int.le_of_lt hafter)) hbefore
  rw [LoopHeader.Cursors.all, List.map_append, List.map_append, placeClauses_append, hinit,
    bind_map_left]
  refine bind_congr fun init => ?_
  rw [placeClauses_append, hcondition, bind_map_left]
  refine bind_congr fun condition => ?_
  rw [hincrement, map_eq_pure_bind]

/-- **A loop is built from the cursors that start in its clauses.**  The marks of its header are
those of its tokens, whatever follows them.  The first clause is a statement, the others are
expressions, and a variable that the second one declares is left out; a clause without a cursor is
absent, and the last cursor is the body. -/
theorem statement_loop {head : CursorHead} {header : LoopHeader} {rest : List Token}
    (hkind : head.kind = .forStmt) (htokens : head.tokens = header.tokens rest)
    (hsorted : head.tokens.Pairwise fun token later => token.start < later.start)
    (cursors : header.Cursors) (last : Cursor) (arguments : List Cursor) :
    ForHeader.ofTokens head.tokens =
        ⟨header.first.start, header.second.start, header.closing.start⟩ ∧
      statement context (.mk head (cursors.all ++ [last]) arguments) = (do
        let init ← clauseNode (statement context) cursors.init
        let condition ← clauseNode (testNode context) cursors.condition
        let increment ← clauseNode (expression context) cursors.increment
        let body ← statement context last
        return .forStmt init condition increment body head.position) := by
  have hends : ForHeader.ofTokens head.tokens = header.ends := by
    rw [htokens, LoopHeader.ofTokens_tokens]
  rw [htokens] at hsorted
  have hplaced := placeClauses_header context cursors (header.first_lt_second hsorted)
  refine ⟨hends, ?_⟩
  have hzip : ((cursors.all ++ [last]).zip
      (statements context (cursors.all ++ [last]))).dropLast =
      cursors.all.map fun cursor => (cursor, statement context cursor) := by
    have hpairs : (cursors.all ++ [last]).zip ((cursors.all ++ [last]).map (statement context)) =
        (cursors.all ++ [last]).map fun cursor => (cursor, statement context cursor) := by
      simpa using List.zip_map' (f := id) (g := statement context) (l := cursors.all ++ [last])
    rw [statements_eq_map, hpairs, List.map_append, List.map_singleton, List.dropLast_concat]
  have hlast : (statements context (cursors.all ++ [last])).getLast? =
      some (statement context last) := by
    rw [statements_eq_map, List.map_append, List.getLast?_append]
    rfl
  calc statement context (.mk head (cursors.all ++ [last]) arguments)
      = forNode context head (cursors.all ++ [last])
          (statements context (cursors.all ++ [last])) := by
        rw [statement]
        funext s
        simp only [statementNode, hkind]
    _ = _ := by
        rw [forNode, hlast]
        simp only [hends, hzip, hplaced, bind_assoc, pure_bind]

/-- The header of `for (; 1; (2))`. -/
def headerWithoutInit : LoopHeader where
  keyword := ⟨"for", 0, 3⟩
  opening := ⟨"(", 4, 5⟩
  init := []
  first := ⟨";", 5, 6⟩
  condition := [⟨"1", 7, 8⟩]
  second := ⟨";", 8, 9⟩
  increment := [⟨"(", 10, 11⟩, ⟨"2", 11, 12⟩, ⟨")", 12, 13⟩]
  closing := ⟨")", 13, 14⟩
  keyword_spelling := rfl
  opening_spelling := rfl
  first_spelling := rfl
  second_spelling := rfl
  closing_spelling := rfl
  isClause_init := rfl
  isClause_condition := by decide
  isClause_increment := by decide

/-- The two numbers of that loop. -/
def cursorsWithoutInit : headerWithoutInit.Cursors where
  init := none
  condition := some (.mk
    { kind := .integerLiteral
      start := some ⟨1, 8, 7, none⟩
      value := some (.integer 1) } [] [])
  increment := some (.mk
    { kind := .integerLiteral
      start := some ⟨1, 11, 10, none⟩
      value := some (.integer 2) } [] [])
  start_init := by simp
  start_condition := by simp [headerWithoutInit, Cursor.head, CursorHead.startOffset]
  start_increment := by simp [headerWithoutInit, Cursor.head, CursorHead.startOffset]

/-- A loop without a first clause, whose third clause has parentheses, before a semicolon. -/
theorem statement_loopWithoutInit :
    let head : CursorHead :=
      { kind := .forStmt, tokens := headerWithoutInit.tokens [⟨";", 15, 16⟩] }
    let last : Cursor := .mk { kind := .nullStmt } [] []
    head.kind = .forStmt ∧
      (head.tokens.Pairwise fun token later => token.start < later.start) ∧
      ForHeader.ofTokens head.tokens = ⟨5, 8, 13⟩ ∧
      statement { mainFile := "main.cpp" } (.mk head (cursorsWithoutInit.all ++ [last]) []) {} =
        (.ok (.forStmt .absent (.integer 1 .unknown) (.integer 2 .unknown) (.nullStmt .unknown)
          .unknown), {}) := by
  intro head last
  have hsorted : head.tokens.Pairwise fun token later => token.start < later.start := by decide
  have htokens : head.tokens = headerWithoutInit.tokens [⟨";", 15, 16⟩] := rfl
  obtain ⟨hends, hloop⟩ := statement_loop { mainFile := "main.cpp" } rfl htokens hsorted
    cursorsWithoutInit last []
  refine ⟨rfl, hsorted, hends, ?_⟩
  rw [hloop]
  rfl

end Building

end TeachingTree

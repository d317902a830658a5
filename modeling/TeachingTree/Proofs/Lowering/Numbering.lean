/-
**The numbers that a lowering hands out, and their order.**

Each node takes its number either before the nodes below it are made, or after; which of the two
depends on the construct it comes from.  The nodes below it are made in the order of its fields,
with one exception: of a method call the call with its arguments comes before the receiver.  The
relation `InOrder` says this with one rule for each construct, and the theorem is that every
lowering that succeeds is in this order, whatever the counter and the chain flag were before.

Main definitions:

* `Site.InOrder` — the order of the numbers in what a site was lowered to;
* `Site.own` — the number that a site takes;
* `Site.Numbered` — different numbers between two counters.

Main results:

* `Site.count_result_le` — a site adds at most its own number to those of its parts;
* `Site.numbered_lower` — numbers lie between the counters, and none occurs twice;
* `Site.inOrder_lower` — **the numbers are in the documented order**;
* `Site.numbers_of_lowering` — all this together.
-/

import TeachingTree.Proofs.Lowering.Context
import TeachingTree.Proofs.Lowering.Results
import TeachingTree.Proofs.Schema.Numbers
import Mathlib.Data.List.Flatten

set_option relaxedAutoImplicit false
set_option autoImplicit false

namespace TeachingTree.Lowering

open Schema (numbers numbersOf)

namespace Site

/-! ### The documented order -/

/-- **The order of the numbers in what a site was lowered to.**  Lists of results are spliced into
the lists of nodes; blocks of numbers are given in the order in which they must ascend. -/
inductive InOrder : Site → Schema → Prop where
  -- nothing below
  | leaf {site : Site} {r : Schema} : r.isLeaf = true → InOrder site r
  -- results that are handed on
  | expression {node : Node} {r : Schema} :
      stmtParts node = [.expr node] → InOrder (.expr node) r → InOrder (.stmt node) r
  | declaration {node : Node} {position : Position} {r : Schema} :
      InOrder (.decl node) r → InOrder (.stmt (.declStmt [node] position)) r
  | variableDeclaration {v : Variable} {r : Schema} :
      InOrder (.var v) r → InOrder (.decl (.var v)) r
  | fieldDeclaration {f : Field} {r : Schema} : InOrder (.field f) r → InOrder (.decl (.field f)) r
  | member {recordName : String} {f : Field} {r : Schema} :
      InOrder (.field f) r → InOrder (.member recordName (.field f)) r
  | loopInit {init : Node} {position : Position} {r : Schema} :
      InOrder (.stmt init) r → InOrder (.loopInit init position) r
  -- results in a row, without a number of their own
  | compound {body : List Node} {position : Position} {results : List Schema} :
      List.Forall₂ InOrder (body.map .stmt) results →
      Ascending ((spliceAll results).map numbers) →
      InOrder (.stmt (.compound body position)) (.group (spliceAll results))
  | declarations {decls : List Node} {position : Position} {results : List Schema} :
      List.Forall₂ InOrder (decls.map .decl) results →
      Ascending ((spliceAll results).map numbers) →
      InOrder (.stmt (.declStmt decls position)) (.group (spliceAll results))
  | innerChain {operator : Option String} {args : List Node} {position : Position}
      {results : List Schema} :
      List.Forall₂ InOrder (args.map .expr) results →
      Ascending ((chainItems results).map numbers) →
      InOrder (.expr (.operatorCall operator args position)) (.group (chainItems results))
  -- the number comes before the nodes below
  | document {decls : List Node} {id : Int} {results : List Schema} :
      List.Forall₂ InOrder (decls.map .decl) results →
      Ascending ([id] :: (spliceAll results).map numbers) →
      InOrder (.unit decls) (.document id (spliceAll results))
  | conditional {condition thenBranch : Node} {declared : Option Variable}
      {position position' : Position} {id : Int} {c t : Schema} :
      InOrder (ofCondition "if" declared condition) c → InOrder (.block thenBranch) t →
      Ascending [[id], c.numbers, t.numbers] →
      InOrder (.stmt (.ifStmt condition thenBranch .absent declared position))
        (.conditional id position' c t .absent)
  | conditionalElse {condition thenBranch elseBranch : Node} {declared : Option Variable}
      {position position' : Position} {id : Int} {c t e : Schema} :
      InOrder (ofCondition "if" declared condition) c → InOrder (.block thenBranch) t →
      InOrder (.block elseBranch) e → Ascending [[id], c.numbers, t.numbers, e.numbers] →
      InOrder (.stmt (.ifStmt condition thenBranch elseBranch declared position))
        (.conditional id position' c t e)
  | whileLoop {condition body : Node} {declared : Option Variable} {position position' : Position}
      {id : Int} {c b : Schema} :
      InOrder (ofCondition "while" declared condition) c → InOrder (.block body) b →
      Ascending [[id], c.numbers, b.numbers] →
      InOrder (.stmt (.whileStmt condition body declared position)) (.whileLoop id position' c b)
  | forLoop {init condition increment body : Node} {position position' : Position} {id : Int}
      {i c p b : Schema} :
      InOrder (.loopInit init position) i → InOrder (.expr condition) c →
      InOrder (.expr increment) p → InOrder (.block body) b →
      Ascending [[id], i.numbers, c.numbers, p.numbers, b.numbers] →
      InOrder (.stmt (.forStmt init condition increment body position))
        (.forLoop id position' i c p b)
  | returned {value : Node} {position position' : Position} {id : Int} {x : Schema} :
      InOrder (.expr value) x → Ascending [[id], x.numbers] →
      InOrder (.stmt (.returnStmt value position)) (.returned id position' x)
  | function {name name' : String} {result : SourceType} {params : List Variable} {body : Node}
      {isDefinition : Bool} {position position' : Position} {id : Int} {t b : Schema}
      {ps : List Schema} :
      InOrder (ofType result) t → List.Forall₂ InOrder (params.map .var) ps →
      InOrder (.block (if isDefinition then body else .absent)) b →
      Ascending ([id] :: t.numbers :: (ps.map numbers ++ [b.numbers])) →
      InOrder (.decl (.function name result params body isDefinition position))
        (.function id position' name' t ps b)
  | struct {name name' : String} {members : List Node} {position position' : Position} {id : Int}
      {results : List Schema} :
      List.Forall₂ InOrder (members.map (.member name)) results →
      Ascending ([id] :: (spliceAll results).map numbers) →
      InOrder (.decl (.record name members false position))
        (.struct id position' name' (spliceAll results))
  | var {v : Variable} {position : Position} {name : String}
      {isReference isConst isParameter : Bool} {id : Int} {t : Schema} :
      InOrder (ofType v.head.type) t → Ascending [[id], t.numbers] →
      InOrder (.var v) (.var id position name t isReference isConst .absent isParameter)
  | varInit {v : Variable} {position : Position} {name : String}
      {isReference isConst isParameter : Bool} {id : Int} {t x : Schema} :
      InOrder (ofType v.head.type) t → InOrder (.expr v.init) x →
      Ascending [[id], t.numbers, x.numbers] →
      InOrder (.var v) (.var id position name t isReference isConst x isParameter)
  | field {f : Field} {position : Position} {name : String} {id : Int} {t : Schema} :
      InOrder (ofType f.type) t → Ascending [[id], t.numbers] →
      InOrder (.field f) (.field id position name t)
  | call {callee : Option String} {args : List Node} {position position' : Position} {id : Int}
      {name : String} {results : List Schema} :
      List.Forall₂ InOrder (args.map .expr) results →
      Ascending ([id] :: (spliceAll results).map numbers) →
      InOrder (.expr (.call callee args position)) (.call id position' name (spliceAll results))
  | methodCall {method : String} {args : List Node} {position position' : Position} {id : Int}
      {name : String} {results : List Schema} :
      List.Forall₂ InOrder (args.map .expr) results →
      Ascending ([id] :: (spliceAll results).map numbers) →
      InOrder (.methodCall method args position) (.call id position' name (spliceAll results))
  -- the number comes after the nodes below; of a method call the call comes first of all
  | block {body : Node} {id : Int} {r : Schema} :
      InOrder (.stmt body) r → Ascending (r.splice.map numbers ++ [[id]]) →
      InOrder (.block body) (.block id r.splice)
  | unary {opcode opcode' : String} {operand : Node} {isLeading : Bool}
      {position position' : Position} {id : Int} {x : Schema} :
      InOrder (.expr operand) x → Ascending [x.numbers, [id]] →
      InOrder (.expr (.unary opcode operand isLeading position)) (.unary id position' opcode' x)
  | binary {opcode opcode' : String} {lhs rhs : Node} {position position' : Position} {id : Int}
      {l r : Schema} :
      InOrder (.expr lhs) l → InOrder (.expr rhs) r → Ascending [l.numbers, r.numbers, [id]] →
      InOrder (.expr (.binary opcode lhs rhs position)) (.binary id position' opcode' l r)
  | overloaded {operator : Option String} {opcode : String} {lhs rhs : Node}
      {position position' : Position} {id : Int} {l r : Schema} :
      InOrder (.expr lhs) l → InOrder (.expr rhs) r → Ascending [l.numbers, r.numbers, [id]] →
      InOrder (.expr (.operatorCall operator [lhs, rhs] position)) (.binary id position' opcode l r)
  | subscript {base index : Node} {opcode : String} {position position' : Position} {id : Int}
      {b i : Schema} :
      InOrder (.expr base) b → InOrder (.expr index) i → Ascending [b.numbers, i.numbers, [id]] →
      InOrder (.expr (.subscript base index position)) (.binary id position' opcode b i)
  | access {base : Node} {f : Field} {opcode : String} {position position' : Position} {id : Int}
      {b k : Schema} :
      InOrder (.expr base) b → InOrder (.key f) k → Ascending [b.numbers, k.numbers, [id]] →
      InOrder (.expr (.member base f position)) (.binary id position' opcode b k)
  | point {method : String} {receiver : Node} {args : List Node} {opcode : String}
      {position position' : Position} {id : Int} {c x : Schema} :
      InOrder (.methodCall method args position) c → InOrder (.expr receiver) x →
      Ascending [c.numbers, x.numbers, [id]] →
      InOrder (.expr (.methodCall method receiver args position)) (.binary id position' opcode x c)
  | vector {name name' : String} {depth : Nat} {id : Int} {x : Schema} :
      InOrder (.type name depth) x → Ascending [x.numbers, [id]] →
      InOrder (.type name (depth + 1)) (.type id name' x)
  | chain {operator : Option String} {args : List Node} {position position' : Position} {id : Int}
      {name : String} {results : List Schema} :
      List.Forall₂ InOrder (args.map .expr) results →
      Ascending ((chainItems results).map numbers ++ [[id]]) →
      InOrder (.expr (.operatorCall operator args position))
        (.call id position' name (chainItems results))

/-- The nodes that a result contributes follow one another. -/
theorem InOrder.ascending_splice {site : Site} {r : Schema} (h : InOrder site r) :
    Ascending (r.splice.map numbers) := by
  induction site using Site.induction generalizing r with
  | h site ih =>
      have hpart : ∀ {part : Site}, part ∈ site.parts → InOrder part r →
          Ascending (r.splice.map numbers) := fun hpart hr => ih _ hpart hr
      cases h with
      | leaf hleaf =>
          rcases Schema.splice_eq_or (Schema.isGroup_of_isLeaf hleaf) with hs | hs <;> rw [hs]
          · exact Ascending.nil
          · exact Ascending.singleton _
      | compound _ hasc => exact hasc
      | declarations _ hasc => exact hasc
      | innerChain _ hasc => exact hasc
      | expression hparts hr =>
          refine hpart ?_ hr
          rw [parts, hparts]
          exact List.mem_singleton_self _
      | declaration hr => exact hpart (List.mem_cons_self ..) hr
      | variableDeclaration hr => exact hpart (List.mem_cons_self ..) hr
      | fieldDeclaration hr => exact hpart (List.mem_cons_self ..) hr
      | member hr => exact hpart (List.mem_cons_self ..) hr
      | loopInit hr => exact hpart (List.mem_cons_self ..) hr
      | _ => exact Ascending.singleton _

/-! ### No number occurs more often than it is handed out -/

theorem numbersOf_spliceAll (results : List Schema) :
    numbersOf (spliceAll results) = numbersOf results :=
  Schema.numbersOf_flatMap_splice results

theorem count_chainItems_le (n : Int) (results : List Schema) :
    (numbersOf (chainItems results)).count n ≤ (numbersOf results).count n := by
  rw [← numbersOf_spliceAll results, Schema.numbersOf_eq_flatMap, Schema.numbersOf_eq_flatMap]
  exact ((chainItems_sublist results).flatMap numbers).count_le n

/-- Whether a site takes a number, first or last. -/
def takesNumber (inChain : Bool) (results : List Schema) (site : Site) : Bool :=
  site.numbersFirst || site.numbersLast inChain results

/-- The number that a site takes, if it takes one. -/
def own (inChain : Bool) (id : Int) (results : List Schema) (site : Site) : List Int :=
  if site.takesNumber inChain results then [id] else []

/-- A list of two or more: its first, its last and what is between. -/
theorem exists_eq_cons_concat {α : Type} {xs : List α} (h : 2 ≤ xs.length) :
    ∃ first between last, xs = first :: (between ++ [last]) := by
  match xs, h with
  | first :: second :: rest, _ =>
      exact ⟨first, (second :: rest).dropLast, (second :: rest).getLast (List.cons_ne_nil _ _),
        by rw [List.dropLast_concat_getLast]⟩

section Count

-- the tables of the scheme, which in this section stand for single sites only
attribute [local simp] exprResult stmtResult declResult varResult loopInitResult own takesNumber
  numbersFirst numbersLast exprNumbersLast commaMessage rejected? numbers List.count_cons

variable (inChain : Bool) (n id : Int) (results : List Schema)

/-- An expression adds at most its own number to those of the results of its parts. -/
theorem count_exprResult_le (node : Node) :
    (exprResult inChain id results node).numbers.count n ≤
      ((expr node).own inChain id results).count n + (numbersOf results).count n := by
  have hgetD := Schema.count_numbers_getD_le n results
  cases node with
  | reference name declared position =>
      cases hkind : declared.kind <;> simp [hkind]
      split <;> simp
  | operatorCall operator args position =>
      have hchain := count_chainItems_le n results
      cases huse : operatorUse operator args.length <;> cases inChain <;>
        simp [huse] at hgetD ⊢ <;> omega
  | call callee args position =>
      have hall := numbersOf_spliceAll results
      cases callee <;> simp [hall]
      omega
  | binary opcode lhs rhs position =>
      simp only [exprResult]
      split <;> simp at hgetD ⊢
      omega
  | _ => simp at hgetD ⊢ <;> omega

/-- A statement adds at most its own number to those of the results of its parts. -/
theorem count_stmtResult_le (node : Node) :
    (stmtResult id results node).numbers.count n ≤
      ((stmt node).own inChain id results).count n + (numbersOf results).count n := by
  have hgetD := Schema.count_numbers_getD_le n results
  have hall := numbersOf_spliceAll results
  cases node with
  | declStmt decls position =>
      rcases decls with _ | ⟨d, _ | ⟨d', ds⟩⟩
      · simp [hall]
      · simp at hgetD ⊢
        omega
      · simp [hall]
  | _ => simp [hall] at hgetD ⊢ <;> omega

/-- A declaration adds at most its own number to those of the results of its parts. -/
theorem count_declResult_le {node : Node} (hlength : results.length = (declParts node).length) :
    (declResult id results node).numbers.count n ≤
      ((decl node).own inChain id results).count n + (numbersOf results).count n := by
  have hgetD := Schema.count_numbers_getD_le n results
  have hall := numbersOf_spliceAll results
  cases node with
  | function name result params body isDefinition position =>
      have htwo : 2 ≤ results.length := by simp [hlength, declParts]
      obtain ⟨t, ps, b, rfl⟩ := exists_eq_cons_concat htwo
      rw [declResult_function]
      simp [Schema.numbersOf, Schema.numbersOf_append]
      omega
  | record name members isImplicit position => cases isImplicit <;> simp [hall]; omega
  | _ => simp at hgetD ⊢ <;> omega

/-- **A site adds at most its own number to those of the results of its parts.** -/
theorem count_result_le {site : Site} (hlength : results.length = site.parts.length) :
    (site.result inChain id results).numbers.count n ≤
      (site.own inChain id results).count n + (numbersOf results).count n := by
  have hgetD := Schema.count_numbers_getD_le n results
  have hall := numbersOf_spliceAll results
  cases site with
  | expr node => exact count_exprResult_le inChain n id results node
  | stmt node => exact count_stmtResult_le inChain n id results node
  | decl node => exact count_declResult_le inChain n id results hlength
  | block body => simp [result] at hgetD ⊢; omega
  | loopInit init position =>
      cases results with
      | nil => simp [result, Schema.isGroup]
      | cons r rest => cases hgroup : r.isGroup <;> simp [result, hgroup, Schema.numbersOf]
  | var v =>
      simp only [result, varResult, singleNode]
      split <;> simp at hgetD ⊢ <;> omega
  | type name depth =>
      cases depth <;> simp [result] at hgetD ⊢
      omega
  | _ => simp [result, hall] at hgetD ⊢ <;> omega

variable {inChain n id results}

/-- A number in the result of a site is its own, or one in the results of its parts. -/
theorem mem_of_mem_numbers_result {site : Site} (hlength : results.length = site.parts.length)
    (h : n ∈ (site.result inChain id results).numbers) :
    n ∈ site.own inChain id results ∨ n ∈ numbersOf results := by
  have hle := count_result_le inChain n id results hlength
  have hpos := List.count_pos_iff.2 h
  by_cases hin : n ∈ numbersOf results
  · exact .inr hin
  · have hzero := List.count_eq_zero.2 hin
    exact .inl (List.count_pos_iff.1 (by omega))

/-- The numbers in the result of a site are all different if those in the results of its parts are,
and its own is not among them. -/
theorem nodup_numbers_result {site : Site} (hlength : results.length = site.parts.length)
    (hnodup : (numbersOf results).Nodup)
    (hdisjoint : ∀ x ∈ site.own inChain id results, ∀ y ∈ numbersOf results, x ≠ y) :
    (site.result inChain id results).numbers.Nodup := by
  have hown : (site.own inChain id results).Nodup := by
    rw [own]
    split <;> simp
  have hall : (site.own inChain id results ++ numbersOf results).Nodup :=
    List.pairwise_append.2 ⟨hown, hnodup, hdisjoint⟩
  refine List.nodup_iff_count.2 fun n => ?_
  refine Nat.le_trans (count_result_le inChain n id results hlength) ?_
  rw [← List.count_append]
  exact List.nodup_iff_count.1 hall n

end Count

/-! ### Numbers lie between the counters -/

/-- Numbers that lie between two counters, and none of which occurs twice. -/
structure Numbered (lo hi : Int) (node : Schema) : Prop where
  bounds : ∀ id ∈ node.numbers, lo ≤ id ∧ id < hi
  nodup : node.numbers.Nodup

variable {verbose : Bool}

/-- No site takes a number both first and last. -/
theorem numbersLast_of_numbersFirst {site : Site} (h : site.numbersFirst = true) (inChain : Bool)
    (results : List Schema) : site.numbersLast inChain results = false := by
  cases site with
  | expr node =>
      cases node with
      | call callee args position => cases callee <;> simp [numbersFirst] at h; rfl
      | _ => simp [numbersFirst] at h
  | stmt node => cases node <;> simp [numbersFirst] at h <;> rfl
  | _ => first | rfl | simp [numbersFirst] at h

/-- **A success in terms of counters**: the parts are lowered in order, and the number of the site,
if it takes one, comes before or after all of theirs. -/
theorem exists_results_of_lower {site : Site} {s last : State} {r : Schema}
    (h : site.lower verbose s = (.ok r, last)) :
    ∃ id results start after, lowerAll verbose site.parts start = (.ok results, after) ∧
      r = site.result s.chainActive id results ∧
      s.nextId ≤ start.nextId ∧ start.nextId ≤ after.nextId ∧ after.nextId ≤ last.nextId ∧
      (site.numbersFirst = true → s.nextId ≤ id ∧ id < start.nextId) ∧
      (site.numbersLast s.chainActive results = true → after.nextId ≤ id ∧ id < last.nextId) := by
  obtain ⟨-, results, after, hparts, rfl, rfl⟩ := lower_eq_ok_iff.1 h
  obtain ⟨start, last, hstart, hlast, -, hrun⟩ := exists_lowerAll_of_lowerParts hparts
  refine ⟨_, results, start, last, hrun, rfl, ?_, nextId_le_of_lowerAll hrun, ?_, ?_, ?_⟩
  · rw [hstart]
    exact (keeps_enter verbose site s).nextId_le
  · rw [hlast]
    exact (State.keeps_advance after _).nextId_le
  · intro hfirst
    simp only [hfirst, if_true, hstart, enter, State.advance]
    omega
  · intro hlast'
    have hfirst : site.numbersFirst = false := by
      cases hf : site.numbersFirst with
      | false => rfl
      | true =>
          rw [numbersLast_of_numbersFirst hf] at hlast'
          exact absurd hlast' (by simp)
    simp only [hfirst, hlast', hlast, State.advance, if_true, Bool.false_eq_true, if_false]
    omega

/-- The numbers of sites in order: they lie between the counters, and each site has its numbers
before those of the sites that follow. -/
theorem numbered_lowerAll {sites : List Site}
    (h : ∀ site ∈ sites, ∀ {s last : State} {r : Schema},
      site.lower verbose s = (.ok r, last) → Numbered s.nextId last.nextId r)
    {s last : State} {results : List Schema}
    (hrun : lowerAll verbose sites s = (.ok results, last)) :
    Ascending (results.map numbers) ∧ ∀ r ∈ results, Numbered s.nextId last.nextId r := by
  induction sites generalizing s results with
  | nil =>
      simp only [lowerAll_nil_apply, Lower.outcome_eq_iff, Except.ok.injEq] at hrun
      rw [← hrun.1]
      exact ⟨Ascending.nil, by simp⟩
  | cons site sites ih =>
      obtain ⟨r, rs, after, hr, hrs, rfl⟩ := lowerAll_cons_eq_ok_iff.1 hrun
      have hsite := h site (List.mem_cons_self ..) hr
      obtain ⟨hasc, hsites⟩ := ih (fun other hother => h other (List.mem_cons_of_mem _ hother)) hrs
      have hbefore := nextId_le_of_lower hr
      have hafter := nextId_le_of_lowerAll hrs
      constructor
      · refine Ascending.cons_iff.2 ⟨?_, hasc⟩
        intro later hlater x hx y hy
        obtain ⟨r', hr', rfl⟩ := List.mem_map.1 hlater
        have h₁ := hsite.bounds x hx
        have h₂ := (hsites r' hr').bounds y hy
        omega
      · intro r' hr'
        rcases List.mem_cons.1 hr' with rfl | hr'
        · refine ⟨fun id hid => ?_, hsite.nodup⟩
          have := hsite.bounds id hid
          omega
        · refine ⟨fun id hid => ?_, (hsites r' hr').nodup⟩
          have := (hsites r' hr').bounds id hid
          omega

/-- One step: the numbers of a site lie between the counters, and none occurs twice, if that holds
of its parts. -/
theorem numbered_of_parts {site : Site}
    (h : ∀ part ∈ site.parts, ∀ {s last : State} {r : Schema},
      part.lower verbose s = (.ok r, last) → Numbered s.nextId last.nextId r)
    {s last : State} {r : Schema} (hrun : site.lower verbose s = (.ok r, last)) :
    Numbered s.nextId last.nextId r := by
  obtain ⟨id, results, start, after, hparts, rfl, h₁, h₂, h₃, hfirst, hlast⟩ :=
    exists_results_of_lower hrun
  obtain ⟨hasc, hresults⟩ := numbered_lowerAll h hparts
  have hlength := length_of_lowerAll hparts
  have hmem : ∀ n ∈ numbersOf results, start.nextId ≤ n ∧ n < after.nextId := by
    intro n hn
    rw [Schema.numbersOf_eq_flatMap] at hn
    obtain ⟨r, hr, hnr⟩ := List.mem_flatMap.1 hn
    exact (hresults r hr).bounds n hnr
  have hown : ∀ n ∈ site.own s.chainActive id results,
      (s.nextId ≤ n ∧ n < start.nextId) ∨ (after.nextId ≤ n ∧ n < last.nextId) := by
    intro n hn
    rw [own, takesNumber] at hn
    split at hn
    · rename_i htakes
      rw [List.mem_singleton.1 hn]
      rcases Bool.or_eq_true_iff.1 htakes with hf | hl
      · exact .inl (hfirst hf)
      · exact .inr (hlast hl)
    · simp at hn
  have hnodup : (numbersOf results).Nodup := by
    rw [Schema.numbersOf_eq_flatMap, List.flatMap]
    refine hasc.nodup_flatten fun block hblock => ?_
    obtain ⟨r, hr, rfl⟩ := List.mem_map.1 hblock
    exact (hresults r hr).nodup
  refine ⟨fun n hn => ?_, nodup_numbers_result hlength hnodup fun x hx y hy => ?_⟩
  · rcases mem_of_mem_numbers_result hlength hn with hn | hn
    · have := hown n hn
      omega
    · have := hmem n hn
      omega
  · have := hown x hx
    have := hmem y hy
    omega

/-- **The numbers in the result of a lowering** lie between the counter before and the counter
after it, and none occurs twice. -/
theorem numbered_lower {site : Site} {s last : State} {r : Schema}
    (h : site.lower verbose s = (.ok r, last)) : Numbered s.nextId last.nextId r := by
  induction site using Site.induction generalizing s last r with
  | h site ih => exact numbered_of_parts (fun part hpart {_ _ _} => ih part hpart) h

/-! ### The order of the numbers -/

section Order

variable {sites : List Site} {results : List Schema} {id : Int}

/-- The nodes that ordered results contribute follow one another. -/
theorem ascending_spliceAll (hparts : List.Forall₂ InOrder sites results)
    (hasc : Ascending (results.map numbers)) : Ascending ((spliceAll results).map numbers) := by
  refine Schema.ascending_splice ?_ hasc
  intro r hr
  obtain ⟨site, -, hsite⟩ := exists_of_mem_of_forall₂ hparts hr
  exact hsite.ascending_splice

theorem exists_mem_of_mem_spliceAll {block : List Int}
    (h : block ∈ (spliceAll results).map numbers) {x : Int} (hx : x ∈ block) :
    ∃ other ∈ results.map numbers, x ∈ other := by
  obtain ⟨item, hitem, rfl⟩ := List.mem_map.1 h
  obtain ⟨r, hr, hitem⟩ := List.mem_flatMap.1 hitem
  exact ⟨r.numbers, List.mem_map_of_mem hr, Schema.numbers_subset_of_mem_splice hitem x hx⟩

theorem number_cons_spliceAll (hparts : List.Forall₂ InOrder sites results)
    (h : Ascending ([id] :: results.map numbers)) :
    Ascending ([id] :: (spliceAll results).map numbers) := by
  obtain ⟨hid, hasc⟩ := Ascending.number_cons_iff.1 h
  refine Ascending.number_cons_iff.2 ⟨?_, ascending_spliceAll hparts hasc⟩
  intro block hblock x hx
  obtain ⟨other, hother, hx⟩ := exists_mem_of_mem_spliceAll hblock hx
  exact hid other hother x hx

theorem ascending_chainItems (hparts : List.Forall₂ InOrder sites results)
    (hasc : Ascending (results.map numbers)) : Ascending ((chainItems results).map numbers) :=
  (ascending_spliceAll hparts hasc).sublist ((chainItems_sublist results).map numbers)

theorem spliceAll_append_number (hparts : List.Forall₂ InOrder sites results)
    (h : Ascending (results.map numbers ++ [[id]])) :
    Ascending ((spliceAll results).map numbers ++ [[id]]) := by
  obtain ⟨hasc, hid⟩ := Ascending.append_number_iff.1 h
  refine Ascending.append_number_iff.2 ⟨ascending_spliceAll hparts hasc, ?_⟩
  intro block hblock x hx
  obtain ⟨other, hother, hx⟩ := exists_mem_of_mem_spliceAll hblock hx
  exact hid other hother x hx

theorem chainItems_append_number (hparts : List.Forall₂ InOrder sites results)
    (h : Ascending (results.map numbers ++ [[id]])) :
    Ascending ((chainItems results).map numbers ++ [[id]]) :=
  (spliceAll_append_number hparts h).sublist
    (((chainItems_sublist results).map numbers).append (List.Sublist.refl _))

end Order

section Result

variable {inChain : Bool} {id : Int} {results : List Schema}

theorem inOrder_exprResult {node : Node} (hparts : List.Forall₂ InOrder (exprParts node) results)
    (hasc : Ascending (results.map numbers))
    (hfirst : (expr node).numbersFirst = true → Ascending ([id] :: results.map numbers))
    (hlast : exprNumbersLast inChain node = true → Ascending (results.map numbers ++ [[id]])) :
    InOrder (.expr node) (exprResult inChain id results node) := by
  cases node with
  | reference name declared position =>
      refine .leaf ?_
      simp only [exprResult]
      split
      · rfl
      · split <;> rfl
      · rfl
  | unary opcode operand isLeading position =>
      rcases hparts with _ | ⟨hx, _ | _⟩
      exact .unary hx (hlast rfl)
  | binary opcode lhs rhs position =>
      simp only [exprParts] at hparts
      simp only [exprResult]
      split at hparts
      · rename_i hcomma
        rw [if_pos hcomma]
        exact .leaf rfl
      · rename_i hcomma
        rw [if_neg hcomma]
        rcases hparts with _ | ⟨hl, _ | ⟨hr, _ | _⟩⟩
        exact .binary hl hr (hlast rfl)
  | member base f position =>
      rcases hparts with _ | ⟨hb, _ | ⟨hk, _ | _⟩⟩
      exact .access hb hk (hlast rfl)
  | subscript base index position =>
      rcases hparts with _ | ⟨hb, _ | ⟨hi, _ | _⟩⟩
      exact .subscript hb hi (hlast rfl)
  | methodCall method receiver args position =>
      rcases hparts with _ | ⟨hc, _ | ⟨hx, _ | _⟩⟩
      exact .point hc hx (hlast rfl)
  | call callee args position =>
      cases callee with
      | none => exact .leaf rfl
      | some callee => exact .call hparts (number_cons_spliceAll hparts (hfirst rfl))
  | operatorCall operator args position =>
      simp only [exprParts] at hparts
      simp only [exprNumbersLast] at hlast
      simp only [exprResult]
      cases huse : operatorUse operator args.length with
      | chain callName =>
          simp only [huse, OperatorUse.lowersOperands, if_true] at hparts
          cases inChain with
          | false => exact .chain hparts (chainItems_append_number hparts (hlast (by simp [huse])))
          | true => exact .innerChain hparts (ascending_chainItems hparts hasc)
      | binary opcode =>
          simp only [huse, OperatorUse.lowersOperands, if_true] at hparts
          obtain ⟨lhs, rhs, rfl⟩ := exists_pair_of_operatorUse_binary huse
          rcases hparts with _ | ⟨hl, _ | ⟨hr, _ | _⟩⟩
          exact .overloaded hl hr (hlast (by rw [huse]))
      | comma => exact .leaf rfl
      | other => exact .leaf rfl
  | _ => exact .leaf rfl

theorem inOrder_stmtResult {node : Node} (hparts : List.Forall₂ InOrder (stmtParts node) results)
    (hasc : Ascending (results.map numbers))
    (hfirst : (stmt node).numbersFirst = true → Ascending ([id] :: results.map numbers)) :
    InOrder (.stmt node) (stmtResult id results node) := by
  cases node with
  | absent => exact .leaf rfl
  | nullStmt position => exact .leaf rfl
  | compound body position => exact .compound hparts (ascending_spliceAll hparts hasc)
  | ifStmt condition thenBranch elseBranch declared position =>
      cases helse : elseBranch.isAbsent with
      | true =>
          have hnone : elseBranch = .absent := by
            cases elseBranch <;> first | rfl | simp [Node.isAbsent] at helse
          subst hnone
          rcases hparts with _ | ⟨hc, _ | ⟨ht, _ | _⟩⟩
          exact .conditional hc ht (hfirst rfl)
      | false =>
          simp only [stmtParts, helse, Bool.false_eq_true, if_false] at hparts
          rcases hparts with _ | ⟨hc, _ | ⟨ht, _ | ⟨he, _ | _⟩⟩⟩
          exact .conditionalElse hc ht he (hfirst rfl)
  | whileStmt condition body declared position =>
      rcases hparts with _ | ⟨hc, _ | ⟨hb, _ | _⟩⟩
      exact .whileLoop hc hb (hfirst rfl)
  | forStmt init condition increment body position =>
      rcases hparts with _ | ⟨hi, _ | ⟨hc, _ | ⟨hp, _ | ⟨hb, _ | _⟩⟩⟩⟩
      exact .forLoop hi hc hp hb (hfirst rfl)
  | returnStmt value position =>
      rcases hparts with _ | ⟨hx, _ | _⟩
      exact .returned hx (hfirst rfl)
  | declStmt decls position =>
      -- a declaration alone stands for itself, and only several of them are a group
      rcases decls with _ | ⟨d, _ | ⟨d', ds⟩⟩
      · exact .declarations hparts (ascending_spliceAll hparts hasc)
      · rcases hparts with _ | ⟨hd, _ | _⟩
        exact .declaration hd
      · exact .declarations hparts (ascending_spliceAll hparts hasc)
  | doStmt | breakStmt | continueStmt | gotoStmt | labelStmt | unsupportedStmt => exact .leaf rfl
  | _ =>
      rcases hparts with _ | ⟨hx, _ | _⟩
      exact .expression rfl hx

theorem inOrder_declResult {node : Node} (hparts : List.Forall₂ InOrder (declParts node) results)
    (hfirst : (decl node).numbersFirst = true → Ascending ([id] :: results.map numbers)) :
    InOrder (.decl node) (declResult id results node) := by
  cases node with
  | function name result params body isDefinition position =>
      simp only [declParts] at hparts
      obtain ⟨t, rest, ht, hrest, rfl⟩ := List.forall₂_cons_left_iff.1 hparts
      obtain ⟨ps, b, hps, hb, rfl⟩ := exists_of_forall₂_concat hrest
      rw [declResult_function]
      refine .function ht hps hb ?_
      rw [← List.map_singleton (f := numbers), ← List.map_append, ← List.map_cons]
      exact hfirst rfl
  | var v =>
      rcases hparts with _ | ⟨hv, _ | _⟩
      exact .variableDeclaration hv
  | field f =>
      rcases hparts with _ | ⟨hf, _ | _⟩
      exact .fieldDeclaration hf
  | record name members isImplicit position =>
      cases isImplicit with
      | true => exact .leaf rfl
      | false => exact .struct hparts (number_cons_spliceAll hparts (hfirst rfl))
  | _ => exact .leaf rfl

/-- An initial value counts only if it is no group. -/
theorem inOrder_varResult {v : Variable} {t x : Schema} (ht : InOrder (ofType v.head.type) t)
    (hx : InOrder (.expr v.init) x) (hasc : Ascending [[id], t.numbers, x.numbers]) :
    InOrder (.var v) (varResult id [t, x] v.head) := by
  cases hgroup : x.isGroup with
  | true =>
      have hnone : singleNode x = .absent := by rw [singleNode, if_pos hgroup]
      have ht' : Ascending [[id], t.numbers] := hasc.sublist (by simp)
      simpa [varResult, hnone] using InOrder.var ht ht'
  | false =>
      have hsingle : singleNode x = x := by rw [singleNode, if_neg (by simp [hgroup])]
      simpa [varResult, hsingle] using InOrder.varInit ht hx hasc

/-- What a site makes of results in order is in order, given where its number lies. -/
theorem inOrder_result {site : Site} (hparts : List.Forall₂ InOrder site.parts results)
    (hasc : Ascending (results.map numbers))
    (hfirst : site.numbersFirst = true → Ascending ([id] :: results.map numbers))
    (hlast : site.numbersLast inChain results = true → Ascending (results.map numbers ++ [[id]])) :
    InOrder site (site.result inChain id results) := by
  cases site with
  | expr node => exact inOrder_exprResult hparts hasc hfirst hlast
  | stmt node => exact inOrder_stmtResult hparts hasc hfirst
  | decl node => exact inOrder_declResult hparts hfirst
  | unit decls => exact .document hparts (number_cons_spliceAll hparts (hfirst rfl))
  | var v =>
      simp only [parts] at hparts
      split at hparts
      · rcases hparts with _ | ⟨ht, _ | ⟨hx, _ | _⟩⟩
        exact inOrder_varResult ht hx (hfirst rfl)
      · rcases hparts with _ | ⟨ht, _ | _⟩
        exact .var ht (hfirst rfl)
  | field f =>
      rcases hparts with _ | ⟨ht, _ | _⟩
      exact .field ht (hfirst rfl)
  | key f => exact .leaf rfl
  | member recordName node =>
      cases node with
      | field f =>
          rcases hparts with _ | ⟨hf, _ | _⟩
          exact .member hf
      | _ =>
          rcases hparts with _ | _
          exact .leaf rfl
  | type name depth =>
      cases depth with
      | zero => exact .leaf rfl
      | succ n =>
          rcases hparts with _ | ⟨hx, _ | _⟩
          exact .vector hx (hlast rfl)
  | block body =>
      rcases hparts with _ | ⟨hr, _ | _⟩
      refine .block hr ?_
      have hasc := spliceAll_append_number (.cons hr .nil) (hlast rfl)
      rwa [spliceAll_cons, spliceAll_nil, List.append_nil] at hasc
  | loopInit init position =>
      rcases hparts with _ | ⟨hr, _ | _⟩
      simp only [result, loopInitResult]
      split
      · exact .leaf rfl
      · exact .loopInit hr
  | conditionVariable construct v => exact .leaf rfl
  | methodCall method args position =>
      exact .methodCall hparts (number_cons_spliceAll hparts (hfirst rfl))

end Result

/-! ### All lowerings -/

/-- One step: the numbers of a site are in order if those of its parts are. -/
theorem inOrder_of_parts {site : Site}
    (h : ∀ part ∈ site.parts, ∀ {s last : State} {r : Schema},
      part.lower verbose s = (.ok r, last) → InOrder part r)
    {s last : State} {r : Schema} (hrun : site.lower verbose s = (.ok r, last)) :
    InOrder site r := by
  obtain ⟨id, results, start, after, hparts, rfl, -, -, -, hfirst, hlast⟩ :=
    exists_results_of_lower hrun
  obtain ⟨hasc, hresults⟩ := numbered_lowerAll (fun part _ => numbered_lower) hparts
  have hbounds : ∀ block ∈ results.map numbers, ∀ n ∈ block,
      start.nextId ≤ n ∧ n < after.nextId := by
    intro block hblock n hn
    obtain ⟨r, hr, rfl⟩ := List.mem_map.1 hblock
    exact (hresults r hr).bounds n hn
  refine inOrder_result (forall₂_lowerAll h hparts) hasc ?_ ?_
  · intro hf
    refine Ascending.number_cons_iff.2 ⟨fun block hblock n hn => ?_, hasc⟩
    exact Int.lt_of_lt_of_le (hfirst hf).2 (hbounds block hblock n hn).1
  · intro hl
    refine Ascending.append_number_iff.2 ⟨hasc, fun block hblock n hn => ?_⟩
    exact Int.lt_of_lt_of_le (hbounds block hblock n hn).2 (hlast hl).1

/-- **The numbers are in the documented order.** -/
theorem inOrder_lower {site : Site} {s last : State} {r : Schema}
    (h : site.lower verbose s = (.ok r, last)) : InOrder site r := by
  induction site using Site.induction generalizing s last r with
  | h site ih => exact inOrder_of_parts (fun part hpart {_ _ _} => ih part hpart) h

/-- **The numbers that a lowering hands out.**  Whatever is lowered, from whatever state: if that
succeeds, every number anywhere in the result lies between the counter before and the counter
after, no number occurs twice, and the numbers are in the documented order. -/
theorem numbers_of_lowering (verbose : Bool) (site : Site) (s last : State) (r : Schema)
    (h : site.lower verbose s = (.ok r, last)) :
    (∀ id ∈ r.numbers, s.nextId ≤ id ∧ id < last.nextId) ∧ r.numbers.Nodup ∧ InOrder site r :=
  ⟨(numbered_lower h).bounds, (numbered_lower h).nodup, inOrder_lower h⟩

/-- The loop `while (n) std::cout << s.at(i + 1) << 2;`. -/
def printLoop : Node :=
  .whileStmt (.reference "n" (.plain { kind := .integer }) .unknown)
    (.operatorCall (some "<<")
      [.operatorCall (some "<<")
        [.reference "cout" (.plain { kind := .stream }) .unknown,
          .methodCall "at" (.reference "s" (.plain { kind := .string }) .unknown)
            [.binary "+" (.reference "i" (.plain { kind := .integer }) .unknown)
              (.integer 1 .unknown) .unknown] .unknown] .unknown,
        .integer 2 .unknown] .unknown)
    none .unknown

/-- The numbers of a loop, first its own and that of its condition, then those of its block. -/
theorem numbers_of_printLoop :
    ∃ r last, (Site.stmt printLoop).lower false { nextId := 5 } = (.ok r, last) ∧
      last.nextId = 16 ∧ r.numbers = [5, 6, 15, 14, 12, 11, 7, 10, 8, 9, 13] ∧
      ((∀ id ∈ r.numbers, 5 ≤ id ∧ id < last.nextId) ∧ r.numbers.Nodup ∧
        InOrder (.stmt printLoop) r) :=
  ⟨_, _, rfl, rfl, rfl, numbers_of_lowering false (.stmt printLoop) { nextId := 5 } _ _ rfl⟩

end Site

end TeachingTree.Lowering

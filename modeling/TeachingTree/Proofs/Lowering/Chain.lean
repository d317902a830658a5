/-
**A chain of stream operators becomes one call.**

The operators `<<` and `>>` associate to the left, so that a chain `s << e₁ << … << eₙ` is a spine
of operator calls with the stream `s` at its end.  The lowering of an operator gives a group if the
flag says that it is met inside another operator, and a call otherwise; nevertheless the chain as a
whole becomes a single call, whose arguments are what the operands contribute in order, and the
stream contributes nothing.

Main definitions:

* `StreamOperator` — the operators of chains;
* `ChainLink`, `chainOf` — a chain as its stream and its links;
* `lowerOperands` — the arguments of a chain.

Main results:

* `lowerExpr_chainOf` — the lowering of a chain, in a chain or outside;
* `flattening_of_chainOf` — **a chain becomes one call, and operands without chains contribute what
  they would outside**.
-/

import Mathlib.Data.List.Induction
import TeachingTree.Proofs.Lowering.ChainFlag

set_option relaxedAutoImplicit false
set_option autoImplicit false

namespace TeachingTree.Lowering

open Site (lowerAll spliceAll)

/-! ### Chains -/

/-- The operators of chains. -/
inductive StreamOperator where
  /-- Writing to a stream. -/
  | output
  /-- Reading from a stream. -/
  | input
  deriving DecidableEq, Repr

namespace StreamOperator

/-- How the operator is written. -/
def symbol : StreamOperator → String
  | .output => "<<"
  | .input => ">>"

/-- The name of the call that a chain becomes if this is its last operator. -/
def callName : StreamOperator → String
  | .output => "print"
  | .input => "read"

theorem streamCall?_symbol (operator : StreamOperator) :
    streamCall? operator.symbol = some operator.callName := by
  cases operator <;> rfl

end StreamOperator

/-- A link of a chain: an operator and its right operand. -/
structure ChainLink where
  /-- The operator. -/
  operator : StreamOperator
  /-- The right operand. -/
  operand : Node
  /-- The place of the operator call. -/
  position : Position

/-- The chain with the given stream and links, which associates to the left. -/
def chainOf (stream : Node) (links : List ChainLink) : Node :=
  links.foldl
    (fun inner link =>
      .operatorCall (some link.operator.symbol) [inner, link.operand] link.position)
    stream

@[simp] theorem chainOf_nil (stream : Node) : chainOf stream [] = stream := rfl

theorem chainOf_concat (stream : Node) (links : List ChainLink) (last : ChainLink) :
    chainOf stream (links ++ [last]) =
      .operatorCall (some last.operator.symbol) [chainOf stream links, last.operand]
        last.position :=
  List.foldl_concat ..

/-- The arguments of a chain: what its stream is lowered to is dropped. -/
def lowerOperands (stream : Node) (links : List ChainLink) : Lower (List Schema) := do
  let _ ← lowerExpr stream
  lowerArgs (links.map ChainLink.operand)

/-! ### The lowering of a chain -/

theorem lowerArgs_append (args others : List Node) :
    lowerArgs (args ++ others) = do
      let nodes ← lowerArgs args
      let more ← lowerArgs others
      return nodes ++ more := by
  simp [Site.lowerArgs_eq false, Site.lowerAll_append, spliceAll]

theorem lowerOperands_concat (stream : Node) (links : List ChainLink) (last : ChainLink) :
    lowerOperands stream (links ++ [last]) = do
      let nodes ← lowerOperands stream links
      let more ← lowerArgs [last.operand]
      return nodes ++ more := by
  simp [lowerOperands, lowerArgs_append]

theorem lowerExpr_link (operator : StreamOperator) (inner operand : Node) (position : Position) :
    lowerExpr (.operatorCall (some operator.symbol) [inner, operand] position) =
      lowerChain operator.callName (do
        let inner ← lowerExpr inner
        let more ← lowerArgs [operand]
        return inner.groupItems ++ more) position := by
  simp only [lowerExpr, Option.bind_some, operator.streamCall?_symbol]

/-- A chain that is met in a chain gives its arguments as a group. -/
theorem lowerChain_apply_of_inChain {s : State} (h : s.chainActive = true) (callName : String)
    (arguments : Lower (List Schema)) (position : Position) :
    lowerChain callName arguments position s = (Schema.group <$> arguments) s := by
  have hs : ({ s with chainActive := true } : State) = s := by rw [← h]
  rw [Lower.map_apply, lowerChain]
  simp only [Lower.bind_apply, Lower.inChain_apply, Lower.withinChain_apply, hs, h, if_true]
  rcases arguments s with ⟨e | items, after⟩ <;> rfl

/-- What is met outside chains gives a call of its arguments. -/
theorem lowerChain_apply_of_not_inChain {s : State} (h : s.chainActive = false) (callName : String)
    (arguments : Lower (List Schema)) (position : Position) :
    lowerChain callName arguments position s =
      match arguments (s.withFlag true) with
      | (.error e, after) => (.error e, after.withFlag false)
      | (.ok items, after) =>
        (.ok (.call after.nextId position callName items),
          { after.withFlag false with nextId := after.nextId + 1 }) := by
  have hs : ({ s with chainActive := true } : State) = s.withFlag true := rfl
  rw [lowerChain]
  simp only [Lower.bind_apply, Lower.inChain_apply, Lower.withinChain_apply, h, hs,
    Bool.false_eq_true, if_false]
  rcases arguments (s.withFlag true) with ⟨e | items, after⟩ <;> rfl

/-- What a site that is no operator of a chain is lowered to gives no items to a chain. -/
theorem groupItems_of_lowerExpr {node : Node} (hnode : (Site.expr node).isChain = false)
    {s after : State} {r : Schema} (h : lowerExpr node s = (.ok r, after)) : r.groupItems = [] := by
  have hrun : (Site.expr node).lower false s = (.ok r, after) := h
  have hgroup := Site.isGroup_of_lower hrun
  rw [Site.becomesGroup, hnode, Bool.and_false] at hgroup
  cases r <;> first | rfl | simp [Schema.isGroup] at hgroup

/-- The arguments that one operator of a chain collects, met with the flag set: those of the
operators before it, and its own right operand. -/
theorem lowerLink_apply {stream : Node} (hstream : (Site.expr stream).isChain = false)
    (links : List ChainLink) (last : ChainLink) {s : State} (hs : s.chainActive = true) :
    (do
      let inner ← lowerExpr (chainOf stream links)
      let more ← lowerArgs [last.operand]
      return inner.groupItems ++ more : Lower (List Schema)) s =
        lowerOperands stream (links ++ [last]) s := by
  induction links using List.reverseRecOn generalizing last s with
  | nil =>
      simp only [chainOf_nil, lowerOperands, List.nil_append, List.map_cons, List.map_nil,
        Lower.bind_apply]
      rcases h : lowerExpr stream s with ⟨e | r, after⟩
      · rfl
      · simp only [groupItems_of_lowerExpr hstream h]
        rcases lowerArgs [last.operand] after with ⟨e | more, end_⟩ <;> rfl
  | append_singleton links link ih =>
      -- the operators before the last one give their arguments as a group
      have hinner : lowerExpr (chainOf stream (links ++ [link])) s =
          (Schema.group <$> lowerOperands stream (links ++ [link])) s := by
        rw [chainOf_concat, lowerExpr_link, lowerChain_apply_of_inChain hs, Lower.map_apply,
          Lower.map_apply, ih link hs]
      rw [lowerOperands_concat, Lower.bind_apply, Lower.bind_apply, hinner, Lower.map_apply]
      rcases lowerOperands stream (links ++ [link]) s with ⟨e | nodes, after⟩ <;> rfl

/-- **The lowering of a chain outside chains**: its operands are lowered in order, with the flag
set, and become the arguments of one call. -/
theorem lowerExpr_chainOf {stream : Node} (hstream : (Site.expr stream).isChain = false)
    (links : List ChainLink) (last : ChainLink) {s : State} (hs : s.chainActive = false) :
    lowerExpr (chainOf stream (links ++ [last])) s =
      match lowerOperands stream (links ++ [last]) (s.withFlag true) with
      | (.error e, after) => (.error e, after.withFlag false)
      | (.ok items, after) =>
        (.ok (.call after.nextId last.position last.operator.callName items),
          { after.withFlag false with nextId := after.nextId + 1 }) := by
  rw [chainOf_concat, lowerExpr_link, lowerChain_apply_of_not_inChain hs,
    lowerLink_apply hstream links last rfl]

/-- What the operands of a chain contribute, one after the other. -/
theorem lowerOperands_eq_ok_iff (verbose : Bool) {stream : Node} {links : List ChainLink}
    {s after : State} {items : List Schema} :
    lowerOperands stream links s = (.ok items, after) ↔
      ∃ dropped start results, lowerExpr stream s = (.ok dropped, start) ∧
        lowerAll verbose (links.map fun link => .expr link.operand) start = (.ok results, after) ∧
        items = spliceAll results := by
  have hsites : (links.map ChainLink.operand).map Site.expr =
      links.map fun link => .expr link.operand := List.map_map
  rw [lowerOperands, Site.lowerArgs_eq verbose, hsites, Lower.bind_apply]
  rcases lowerExpr stream s with ⟨e | dropped, start⟩
  · simp
  · simp only [Lower.map_apply, Lower.outcome_eq_iff, Except.ok.injEq]
    constructor
    · intro h
      rcases hrun : lowerAll verbose (links.map fun link => .expr link.operand) start with
        ⟨e | results, end_⟩
      · simp [hrun] at h
      · rw [hrun, Lower.outcome_eq_iff, Except.ok.injEq] at h
        obtain ⟨rfl, rfl⟩ := h
        exact ⟨dropped, start, results, ⟨rfl, rfl⟩, hrun, rfl⟩
    · rintro ⟨_, _, results, ⟨rfl, rfl⟩, hresults, rfl⟩
      rw [hresults]

/-- **Flattening of chains.**  First: a chain of at least one operator whose stream is no operator
of a chain itself, met with the flag clear, succeeds just when its stream and its operands do, one
after the other with the flag set; what comes of it is one call, named for the last operator and
placed where that is, whose arguments are what the operands contribute in order, and whose number
comes after all of theirs.  Second: an expression in which no operator of a chain is live has the
same outcome with the flag set and with the flag clear. -/
theorem flattening_of_chainOf (verbose : Bool) :
    (∀ (stream : Node) (links : List ChainLink) (last : ChainLink) (s after : State) (r : Schema),
      (Site.expr stream).isChain = false → s.chainActive = false →
      (lowerExpr (chainOf stream (links ++ [last])) s = (.ok r, after) ↔
        ∃ dropped start results end_,
          lowerExpr stream (s.withFlag true) = (.ok dropped, start) ∧
          lowerAll verbose ((links ++ [last]).map fun link => .expr link.operand) start =
            (.ok results, end_) ∧
          r = .call end_.nextId last.position last.operator.callName
            (results.flatMap Schema.splice) ∧
          after = { end_ with nextId := end_.nextId + 1, chainActive := false })) ∧
    (∀ (node : Node) (s : State), (∀ site ∈ (Site.expr node).live, site.isChain = false) →
      lowerExpr node (s.withFlag true) =
        ((lowerExpr node (s.withFlag false)).1,
          (lowerExpr node (s.withFlag false)).2.withFlag true)) := by
  constructor
  · intro stream links last s after r hstream hs
    rw [lowerExpr_chainOf hstream links last hs]
    constructor
    · intro h
      rcases hrun : lowerOperands stream (links ++ [last]) (s.withFlag true) with ⟨e | items, end_⟩
      · simp [hrun] at h
      · simp only [hrun, Lower.outcome_eq_iff, Except.ok.injEq] at h
        obtain ⟨dropped, start, results, hstream, hresults, rfl⟩ :=
          (lowerOperands_eq_ok_iff verbose).1 hrun
        exact ⟨dropped, start, results, end_, hstream, hresults, h.1.symm, h.2.symm⟩
    · rintro ⟨dropped, start, results, end_, hstream, hresults, rfl, rfl⟩
      rw [(lowerOperands_eq_ok_iff verbose).2 ⟨dropped, start, results, hstream, hresults, rfl⟩]
      rfl
  · intro node s hnode
    have h : (Site.expr node).lower verbose ((s.withFlag false).withFlag true) = _ :=
      Site.lower_withFlag hnode true (s.withFlag false)
    exact h

/-- The use of the stream `cout`. -/
def outputStream : Node := .reference "cout" (.plain { kind := .stream }) ⟨1, 1⟩

/-- The expression `a + 1`. -/
def successor : Node :=
  .binary "+" (.reference "a" (.plain { kind := .integer }) ⟨1, 14⟩) (.integer 1 ⟨1, 18⟩) ⟨1, 14⟩

/-- The chain of `std::cout << (a + 1) << std::endl`. -/
def successorLinks : List ChainLink :=
  [⟨.output, successor, ⟨1, 1⟩⟩,
    ⟨.output, .reference "endl" (.plain { kind := .streamManipulator }) ⟨1, 24⟩, ⟨1, 1⟩⟩]

theorem flattening_of_successorLinks :
    lowerExpr (chainOf outputStream successorLinks) { nextId := 3 } =
        (.ok (.call 7 ⟨1, 1⟩ "print"
          [.binary 5 ⟨1, 14⟩ "+" (.identifier 3 ⟨1, 14⟩ "a")
              (.literal 4 ⟨1, 18⟩ "int" (.integer 1)),
            .literal 6 ⟨1, 24⟩ "string" (.ofString "\n")]), { nextId := 8 }) ∧
      lowerExpr successor (State.withFlag {} true) =
        ((lowerExpr successor (State.withFlag {} false)).1,
          (lowerExpr successor (State.withFlag {} false)).2.withFlag true) := by
  constructor
  · refine ((flattening_of_chainOf false).1 outputStream [⟨.output, successor, ⟨1, 1⟩⟩]
      ⟨.output, .reference "endl" (.plain { kind := .streamManipulator }) ⟨1, 24⟩, ⟨1, 1⟩⟩ _ _ _
      rfl rfl).2 ⟨_, _, _, _, rfl, rfl, rfl, rfl⟩
  · have hlive : ∀ site ∈ (Site.expr successor).live, site.isChain = false := by
      simp [Site.live_eq, Site.parts, Site.exprParts, Site.isChain, successor]
    exact (flattening_of_chainOf false).2 successor {} hlive

end TeachingTree.Lowering

/-
**No leaf is lost, duplicated, invented or reordered.**

The leaves of a document are its names, literals and messages.  They can be read off the source
tree: a literal and the use of a name are leaves themselves, the field of a member access is one
after those of its base, a construct that the schema rejects is one message, and what else is
lowered contributes the leaves of the parts that stay, in the order in which these are written.

Main definitions:

* `Site.ownLeaf?` — the leaf that a site contributes itself;
* `Site.leaves` — **the leaves of a site**, by recursion over the parts that stay.

Main results:

* `Site.leaves_eq` — the recursion that the leaves of a site follow;
* `Site.leaf_of_made` — the leaf that a site makes;
* `leaves_of_lowerProgram` — **the leaves of a document are those of its program**.
-/

import TeachingTree.Proofs.Lowering.Kept

set_option relaxedAutoImplicit false
set_option autoImplicit false

namespace TeachingTree.Lowering

namespace Site

/-! ### Leaves of the source tree -/

/-- The warning in the place of the comma operator. -/
def commaLeaf (position : Position) : Leaf :=
  .message position "warning" "comma operator" "We recommend not using the comma operator!"

/-- The leaf that an expression contributes itself. -/
def exprLeaf? : Node → Option Leaf
  | .integer value position => some (.literal position "int" (.integer value))
  | .floating value position => some (.literal position "double" (.floating value))
  | .character value position => some (.literal position "string" value)
  | .string points position => some (.literal position "string" (.text points))
  | .bool value position => some (.literal position "bool" (.bool value))
  | .reference name declared position =>
    match declared.kind with
    | .stream => none
    | .streamManipulator =>
      if name = "endl" then some (.literal position "string" (.ofString "\n")) else none
    | _ => some (.identifier position name)
  | .binary opcode _ _ position => if opcode = "," then some (commaLeaf position) else none
  | .operatorCall operator args position =>
    match operatorUse operator args.length with
    | .comma => some (commaLeaf position)
    | .other =>
      some (.message position "error" "operator call" (operatorNote operator args.length))
    | _ => none
  | .call none _ position =>
    some (.message position "error" "function call" "Function call could not be resolved")
  | _ => none

/-- The leaf that a site contributes itself. -/
def ownLeaf? : Site → Option Leaf
  | .expr node => exprLeaf? node
  | .stmt node =>
    (rejected? node).map fun (tag, description, position) =>
      .message position "error" tag description
  | .loopInit init position =>
    if init.listsOthers then
      some (.message position "error" "compoundStmt"
        "Compound Statements are not allowed in for loop init")
    else none
  | .conditionVariable construct v =>
    some (.message v.position "error" "condition-variable"
      ("Variable declarations are not allowed in " ++ construct ++ " conditions"))
  | .key f => some (.literal f.position "string" (.ofString f.name))
  | _ => none

/-- **The leaves of a site**: its own, and then those of the parts that stay. -/
def leaves (site : Site) : List Leaf := site.pick (fun _ => ownLeaf?) false

/-- The chain flag has no influence on leaves. -/
theorem pick_ownLeaf? (inChain : Bool) (site : Site) :
    site.pick (fun _ => ownLeaf?) inChain = site.leaves := by
  induction site using Site.induction generalizing inChain with
  | h site ih =>
      have hkept : ∀ b : Bool, site.kept.flatMap (pick (fun _ => ownLeaf?) b) =
          site.kept.flatMap leaves := fun b =>
        List.flatMap_congr fun part hpart => ih part (kept_subset site hpart) b
      rw [leaves, pick_eq, pick_eq, hkept, hkept]

/-- The recursion that the leaves of a site follow. -/
theorem leaves_eq (site : Site) :
    site.leaves = site.ownLeaf?.toList ++ site.kept.flatMap leaves := by
  have hkept : site.kept.flatMap (pick (fun _ => ownLeaf?) (false || site.isChain)) =
      site.kept.flatMap leaves := List.flatMap_congr fun part _ => pick_ownLeaf? _ part
  rw [leaves, pick_eq, hkept]

/-! ### Leaves that sites make -/

section Made

-- the tables of the scheme, which in this section stand for single sites only
attribute [local simp] made? numbersFirst numbersLast exprNumbersLast result exprResult stmtResult
  declResult varResult commaMessage commaLeaf ownLeaf? exprLeaf? Schema.leaf?

variable (inChain : Bool) (id : Int) (results : List Schema)

theorem exprLeaf?_of_made (node : Node) :
    ((expr node).made? inChain id results).bind Schema.leaf? = exprLeaf? node := by
  cases node with
  | reference name declared position =>
      cases hkind : declared.kind <;> simp [hkind]
      split <;> simp_all
  | binary opcode lhs rhs position => by_cases hcomma : opcode = "," <;> simp [hcomma]
  | operatorCall operator args position =>
      cases huse : operatorUse operator args.length <;> cases inChain <;> simp [huse]
  | call callee args position => cases callee <;> simp
  | _ => simp

theorem stmtLeaf?_of_made (node : Node) :
    ((stmt node).made? inChain id results).bind Schema.leaf? = (stmt node).ownLeaf? := by
  cases node <;> simp [rejected?]

/-- The leaf that a site makes is the one that is read off the source tree. -/
theorem leaf_of_made {site : Site} (hflag : inChain = true → site.inExpression = true)
    (hgroup : List.Forall₂
      (fun part r => r.isGroup = part.becomesGroup (inChain || site.isChain)) site.parts results) :
    (site.made? inChain id results).bind Schema.leaf? = site.ownLeaf? := by
  cases site with
  | expr node => exact exprLeaf?_of_made inChain id results node
  | stmt node => exact stmtLeaf?_of_made inChain id results node
  | decl node =>
      cases node with
      | record name members isImplicit position => cases isImplicit <;> simp
      | _ => simp
  | type name depth => cases depth <;> simp
  | loopInit init position =>
      obtain rfl : inChain = false := by simpa [inExpression] using hflag
      rcases hgroup with _ | ⟨hr, _ | _⟩
      simp only [isChain, Bool.or_false, becomesGroup, Bool.false_and] at hr
      rw [made?_loopInit, List.headD_cons, hr]
      cases hlists : init.listsOthers <;> simp [hlists]
  | _ => simp

end Made

end Site

/-! ### Programs -/

/-- **No leaf is lost, duplicated, invented or reordered.**  If a program has a document, then the
leaves of the document from left to right, with all that they are apart from their numbers, are the
leaves of the program. -/
theorem leaves_of_lowerProgram (verbose : Bool) (decls : List Node) (document : Schema)
    (h : (lowerProgram verbose decls).1 = .ok document) :
    document.leaves = (Site.unit decls).leaves := by
  obtain ⟨last, hrun⟩ := Site.exists_lower_unit_of_lowerProgram h
  refine Site.pick_of_lower (fun inChain site id results hflag hgroup => ?_) hrun (by simp)
  exact Site.leaf_of_made inChain id results hflag hgroup

/-- The statements `for (int i = 0, j = 1; i < p.x; i++) std::cout << s.at(i, 2) << std::endl;`,
`do ; while (n, 0);` and `m, n;`. -/
def countingLoop : Node :=
  let name (n : String) (column : Int) : Node :=
    .reference n (.plain { kind := .integer }) ⟨1, column⟩
  let counter (n : String) (value : Int) : Node :=
    .var (.mk
      { name := n, type := .plain { kind := .integer }, initStyle := some .assigned }
      (.integer value .unknown))
  let key : Field := { name := "x", type := .plain { kind := .integer }, position := ⟨7, 3⟩ }
  let print (stream operand : Node) : Node := .operatorCall (some "<<") [stream, operand] ⟨2, 1⟩
  .compound
    [.forStmt (.declStmt [counter "i" 0, counter "j" 1] ⟨1, 6⟩)
      (.binary "<" (name "i" 20) (.member (name "p" 24) key ⟨1, 24⟩) ⟨1, 20⟩)
      (.unary "++" (name "i" 29) false ⟨1, 29⟩)
      (print
        (print (.reference "cout" (.plain { kind := .stream }) ⟨2, 1⟩)
          (.methodCall "at" (name "s" 40) [name "i" 45, .integer 2 ⟨2, 20⟩] ⟨2, 9⟩))
        (.reference "endl" (.plain { kind := .streamManipulator }) ⟨2, 30⟩))
      ⟨1, 1⟩,
      .doStmt (.nullStmt ⟨3, 4⟩) (.binary "," (name "n" 5) (.integer 0 ⟨3, 9⟩) ⟨3, 6⟩) ⟨3, 1⟩,
      .binary "," (name "m" 50) (name "n" 53) ⟨4, 1⟩] .unknown

/-- The function `int main()` with these statements. -/
def countingProgram : List Node :=
  [.function "main" (.plain { kind := .integer }) [] countingLoop true .unknown]

theorem leaves_of_countingProgram :
    ∃ document, (lowerProgram false countingProgram).1 = .ok document ∧
      document.leaves =
        [.message ⟨1, 1⟩ "error" "compoundStmt"
            "Compound Statements are not allowed in for loop init",
          .identifier ⟨1, 20⟩ "i", .identifier ⟨1, 24⟩ "p",
          .literal ⟨7, 3⟩ "string" (.ofString "x"), .identifier ⟨1, 29⟩ "i",
          .identifier ⟨1, 40⟩ "s", .identifier ⟨1, 45⟩ "i",
          .literal ⟨2, 20⟩ "int" (.integer 2), .literal ⟨2, 30⟩ "string" (.ofString "\n"),
          .message ⟨3, 1⟩ "error" "do/while statement" "Do/While statements are not allowed",
          .message ⟨4, 1⟩ "warning" "comma operator"
            "We recommend not using the comma operator!"] ∧
      document.leaves = (Site.unit countingProgram).leaves := by
  obtain ⟨document, hdocument⟩ : ∃ document,
      (lowerProgram false countingProgram).1 = .ok document :=
    exists_ok_of_isSome (by decide +kernel)
  have hleaves := leaves_of_lowerProgram false countingProgram document hdocument
  refine ⟨document, hdocument, hleaves.trans ?_, hleaves⟩
  cbv

end TeachingTree.Lowering

/-
**Numbers that are taken and do not appear.**

Every number that a lowering takes is given to a node, but not every node becomes a part of the
result: three kinds of parts are lowered and then left out.  These are the stream of a chain, the
type of a field that a member access names, and the statement in the place of the first clause of
a loop header if it stands for several nodes.  This module counts: the counter advances by as many
numbers as there are live sites that take one, and the result holds as many numbers as there are
such sites among those that stay.  What is missing from a document is thus what was taken in the
parts that were left out, and a program in which these take none has numbers without gaps.

Main definitions:

* `Site.takes` — whether a site takes a number, without regard to results;
* `Site.leftOut` — the parts that are lowered and do not stay;
* `Site.taken`, `Site.lost` — how many numbers a site takes, and how many of them in parts that are
  left out;
* `Site.isThrifty` — the sites that leave out no part in which a number is taken.

Main results:

* `Site.nextId_of_lower` — how far a lowering advances the counter;
* `Site.length_numbers_of_lower` — how many numbers its result holds;
* `Site.lost_eq_zero` — thrifty sites lose nothing;
* `numbers_of_lowerUnit` — **the numbers of a document, and which ones are missing**.
-/

import Mathlib.Algebra.BigOperators.Group.List.Basic
import Mathlib.Data.Finset.Dedup
import Mathlib.Data.Int.Interval
import TeachingTree.Proofs.Lowering.Kept
import TeachingTree.Proofs.Lowering.Numbering

set_option relaxedAutoImplicit false
set_option autoImplicit false

namespace TeachingTree

/-! ### As many numbers as nodes -/

namespace Schema

mutual

/-- Each node of a tree has one number. -/
theorem length_pick (tree : Schema) :
    (tree.pick fun _ => some ()).length = tree.numbers.length := by
  cases tree with
  | absent => rfl
  | foreign className => rfl
  | group items => exact length_pickAll items
  | type id name dataType => simp [pick, numbers, length_pick dataType, Nat.add_comm]
  | literal id position kind value => rfl
  | identifier id position name => rfl
  | message id position kind tag description => rfl
  | unary id position opcode expression =>
      simp [pick, numbers, length_pick expression, Nat.add_comm]
  | binary id position opcode left right =>
      simp [pick, numbers, length_pick left, length_pick right]
  | call id position name arguments => simp [pick, numbers, length_pickAll arguments, Nat.add_comm]
  | block id statements => simp [pick, numbers, length_pickAll statements, Nat.add_comm]
  | conditional id position condition thenBlock elseBlock =>
      simp [pick, numbers, length_pick condition, length_pick thenBlock, length_pick elseBlock]
  | whileLoop id position condition body =>
      simp [pick, numbers, length_pick condition, length_pick body]
  | forLoop id position init condition post body =>
      simp [pick, numbers, length_pick init, length_pick condition, length_pick post,
        length_pick body]
  | returned id position expression =>
      simp [pick, numbers, length_pick expression, Nat.add_comm]
  | var id position name dataType isReference isConst init isParameter =>
      simp [pick, numbers, length_pick dataType, length_pick init]
  | field id position name dataType => simp [pick, numbers, length_pick dataType, Nat.add_comm]
  | function id position name returnType parameters body =>
      simp [pick, numbers, length_pick returnType, length_pickAll parameters, length_pick body]
  | struct id position name attributes =>
      simp [pick, numbers, length_pickAll attributes, Nat.add_comm]
  | document id statements => simp [pick, numbers, length_pickAll statements, Nat.add_comm]

theorem length_pickAll (trees : List Schema) :
    (pickAll (fun _ => some ()) trees).length = (numbersOf trees).length := by
  cases trees with
  | nil => rfl
  | cons tree trees => simp [pickAll, numbersOf, length_pick tree, length_pickAll trees]

end

end Schema

namespace Lowering

namespace Site

/-! ### What is taken, and what is lost -/

/-- Whether a site takes a number.  The first clause of a loop header takes one for the message in
the place of several nodes. -/
def takes (inChain : Bool) : Site → Bool
  | .loopInit init _ => (stmt init).becomesGroup inChain
  | site => site.takesNumber inChain []

/-- The stream of a chain, which is left out unless it is a chain itself. -/
def droppedOperands : List Node → List Site
  | [] => []
  | stream :: _ => if (expr stream).isChain then [] else [.expr stream]

/-- The parts of a site that are lowered and do not stay. -/
def leftOut : Site → List Site
  | .expr (.operatorCall operator args _) =>
    if (operatorUse operator args.length).isChain then droppedOperands args else []
  | .loopInit init _ => if init.listsOthers then [.stmt init] else []
  | .key f => [ofType f.type]
  | _ => []

/-- The operands of a chain are those that stay and the one that does not. -/
theorem keptOperands_append_perm (args : List Node) :
    (keptOperands args ++ droppedOperands args).Perm (args.map .expr) := by
  cases args with
  | nil => exact List.Perm.nil
  | cons stream operands =>
      rw [keptOperands, droppedOperands]
      split
      · rw [List.append_nil]
        exact List.Perm.refl _
      · exact List.perm_append_comm

/-- The parts of a site are those that stay and those that do not. -/
theorem kept_append_leftOut_perm (site : Site) : (site.kept ++ site.leftOut).Perm site.parts := by
  cases site with
  | expr node =>
      cases node with
      | operatorCall operator args position =>
          simp only [kept, leftOut, parts, exprParts]
          cases huse : operatorUse operator args.length with
          | chain callName => exact keptOperands_append_perm args
          | _ => simp [OperatorUse.isChain]
      | methodCall method receiver args position => exact List.Perm.swap _ _ _
      | _ => exact List.Perm.of_eq (List.append_nil _)
  | loopInit init position =>
      simp only [kept, leftOut]
      split
      · exact List.Perm.refl _
      · exact List.Perm.refl _
  | key f => exact List.Perm.refl _
  | _ => exact List.Perm.of_eq (List.append_nil _)

/-- **How many numbers the lowering of a site takes**, its parts included. -/
def taken (inChain : Bool) (site : Site) : Nat :=
  (site.takes inChain).toNat +
    (site.parts.attach.map fun part => taken (inChain || site.isChain) part.1).sum
termination_by site.weight
decreasing_by exact weight_lt_of_mem_parts part.2

/-- **How many of these numbers are taken in parts that are left out**, at any depth. -/
def lost (inChain : Bool) (site : Site) : Nat :=
  (site.leftOut.map (taken (inChain || site.isChain))).sum +
    (site.kept.attach.map fun part => lost (inChain || site.isChain) part.1).sum
termination_by site.weight
decreasing_by exact weight_lt_of_mem_kept part.2

theorem taken_eq (inChain : Bool) (site : Site) :
    site.taken inChain =
      (site.takes inChain).toNat + (site.parts.map (taken (inChain || site.isChain))).sum := by
  rw [taken, List.map_subtype (g := taken (inChain || site.isChain)) fun _ _ => rfl,
    List.unattach_attach]

theorem lost_eq (inChain : Bool) (site : Site) :
    site.lost inChain =
      (site.leftOut.map (taken (inChain || site.isChain))).sum +
        (site.kept.map (lost (inChain || site.isChain))).sum := by
  rw [lost, List.map_subtype (g := lost (inChain || site.isChain)) fun _ _ => rfl,
    List.unattach_attach]

/-! ### How far the counter advances -/

section Counter

variable {verbose inChain : Bool}

/-- Whether a site takes a number follows from which of the results of its parts are groups. -/
theorem takesNumber_eq_takes {site : Site} {results : List Schema}
    (hgroup : List.Forall₂
      (fun part r => r.isGroup = part.becomesGroup (inChain || site.isChain)) site.parts results) :
    site.takesNumber inChain results = site.takes inChain := by
  cases site with
  | loopInit init position =>
      rcases hgroup with _ | ⟨hr, _ | _⟩
      simpa [takesNumber, numbersFirst, numbersLast, takes, isChain] using hr
  | _ => rfl

theorem nextId_advance (s : State) (takes : Bool) :
    (s.advance takes).nextId = s.nextId + takes.toNat := by
  cases takes with
  | false => simp [State.advance]
  | true => rfl

/-- Sites in order advance the counter by the numbers that all of them take. -/
theorem nextId_of_lowerAll {sites : List Site}
    (h : ∀ site ∈ sites, ∀ {s last : State} {r : Schema}, s.chainActive = inChain →
      site.lower verbose s = (.ok r, last) → last.nextId = s.nextId + site.taken inChain)
    {s last : State} {results : List Schema} (hs : s.chainActive = inChain)
    (hrun : lowerAll verbose sites s = (.ok results, last)) :
    last.nextId = s.nextId + (sites.map (taken inChain)).sum := by
  induction sites generalizing s results with
  | nil =>
      simp only [lowerAll_nil_apply, Lower.outcome_eq_iff, Except.ok.injEq] at hrun
      rw [← hrun.2]
      simp
  | cons site sites ih =>
      obtain ⟨r, rs, after, hr, hrs, -⟩ := lowerAll_cons_eq_ok_iff.1 hrun
      have hafter : after.chainActive = inChain := by
        have hkeeps := (keeps_lower verbose site s).chainActive_eq
        rwa [hr, hs] at hkeeps
      have hsite := h site (List.mem_cons_self ..) hs hr
      have hsites := ih (fun other hother => h other (List.mem_cons_of_mem _ hother)) hafter hrs
      rw [hsites, hsite, List.map_cons, List.sum_cons]
      omega

/-- One step: a site advances the counter by its own number and those of its parts. -/
theorem nextId_of_parts {site : Site}
    (h : ∀ part ∈ site.parts, ∀ {s last : State} {r : Schema},
      part.lower verbose s = (.ok r, last) → last.nextId = s.nextId + part.taken s.chainActive)
    {s last : State} {r : Schema} (hrun : site.lower verbose s = (.ok r, last)) :
    last.nextId = s.nextId + site.taken s.chainActive := by
  obtain ⟨-, results, after, hparts, -, rfl⟩ := lower_eq_ok_iff.1 hrun
  obtain ⟨start, end_, hstart, hend, hflag, hall⟩ := exists_lowerAll_of_lowerParts hparts
  rw [enter_chainActive] at hflag
  have hgroup := forall₂_lowerAll_inChain
    (R := fun part r => r.isGroup = part.becomesGroup (s.chainActive || site.isChain))
    (fun part _ s last r hs hr => by rw [← hs]; exact isGroup_of_lower hr) hflag hall
  have hall := nextId_of_lowerAll
    (fun part hpart {s last r} hs hr => by rw [← hs]; exact h part hpart hr) hflag hall
  have hbefore : start.nextId = s.nextId + site.numbersFirst.toNat := by
    rw [hstart, ← nextId_advance]
    rfl
  have hown : site.numbersFirst.toNat + (site.numbersLast s.chainActive results).toNat =
      (site.takes s.chainActive).toNat := by
    rw [← takesNumber_eq_takes hgroup, takesNumber]
    cases hfirst : site.numbersFirst with
    | false => simp
    | true => simp [numbersLast_of_numbersFirst hfirst]
  rw [nextId_advance, ← hend, hall, hbefore, taken_eq, ← hown]
  omega

/-- **How far a lowering advances the counter**: by one for each live site that takes a number. -/
theorem nextId_of_lower {site : Site} {s last : State} {r : Schema}
    (h : site.lower verbose s = (.ok r, last)) :
    last.nextId = s.nextId + site.taken s.chainActive := by
  induction site using Site.induction generalizing s last r with
  | h site ih => exact nextId_of_parts (fun part hpart {_ _ _} hr => ih part hpart hr) h

/-! ### How many numbers a result holds -/

/-- What a site contributes if each number counts once. -/
def tally? (inChain : Bool) (site : Site) : Option Unit :=
  if site.takes inChain then some () else none

theorem length_tally? (inChain : Bool) (site : Site) :
    (site.tally? inChain).toList.length = (site.takes inChain).toNat := by
  rw [tally?]
  cases site.takes inChain <;> rfl

/-- The sites that stay and take a number are all that take one, less those that are lost. -/
theorem length_pick_tally? (inChain : Bool) (site : Site) :
    (site.pick tally? inChain).length + site.lost inChain = site.taken inChain := by
  induction site using Site.induction generalizing inChain with
  | h site ih =>
      have hkept : ∀ b : Bool, (site.kept.flatMap (pick tally? b)).length +
          (site.kept.map (lost b)).sum = (site.kept.map (taken b)).sum := by
        intro b
        rw [List.length_flatMap, ← List.sum_map_add]
        refine congrArg List.sum (List.map_congr_left fun part hpart => ?_)
        exact ih part (kept_subset site hpart) b
      have hparts : ∀ b : Bool, (site.kept.map (taken b)).sum + (site.leftOut.map (taken b)).sum =
          (site.parts.map (taken b)).sum := by
        intro b
        rw [← List.sum_append, ← List.map_append]
        exact ((kept_append_leftOut_perm site).map _).sum_eq
      have h₁ := hkept (inChain || site.isChain)
      have h₂ := hparts (inChain || site.isChain)
      rw [pick_eq, List.length_append, length_tally?, lost_eq, taken_eq]
      omega

/-- **How many numbers a result holds**: as many as were taken, less those that were lost. -/
theorem length_numbers_of_lower {site : Site} {s last : State} {r : Schema}
    (h : site.lower verbose s = (.ok r, last))
    (hflag : s.chainActive = true → site.inExpression = true) :
    r.numbers.length + site.lost s.chainActive = site.taken s.chainActive := by
  rw [← Schema.length_pick, ← length_pick_tally?]
  have hpick : r.pick (fun _ => some ()) = site.pick tally? s.chainActive := by
    refine pick_of_lower (fun inChain site id results _ hgroup => ?_) h hflag
    rw [made?, tally?, ← takesNumber_eq_takes hgroup, takesNumber]
    split <;> rfl
  rw [hpick]

end Counter

/-! ### Sites that lose nothing -/

/-- Whether a node in the place of the stream of a chain takes no number that would be lost:
nothing at all, a stream, a manipulator other than the end of a line, or a chain. -/
def isBareStream : Node → Bool
  | .absent => true
  | .reference name declared _ =>
    match declared.kind with
    | .stream => true
    | .streamManipulator => name ≠ "endl"
    | _ => false
  | node => (expr node).isChain

/-- Whether a site leaves out no part in which a number is taken: it is no member access, no list
in the place of the first clause of a loop header, and no chain with a stream that takes numbers. -/
def isThrifty : Site → Bool
  | .expr (.member ..) => false
  | .expr (.operatorCall operator (stream :: operands) _) =>
    !(operatorUse operator (operands.length + 1)).isChain || isBareStream stream
  | .loopInit init _ => !init.listsOthers
  | _ => true

/-- A stream that is left out takes no number. -/
theorem taken_of_isBareStream {stream : Node} (h : isBareStream stream = true)
    (hchain : (expr stream).isChain = false) (inChain : Bool) :
    (expr stream).taken inChain = 0 := by
  rw [taken_eq]
  cases stream with
  | absent => rfl
  | reference name declared position =>
      simp only [isBareStream] at h
      cases hkind : declared.kind <;>
        simp_all [takes, takesNumber, numbersFirst, numbersLast, exprNumbersLast, parts, exprParts]
  | _ =>
      simp only [isBareStream] at h
      rw [hchain] at h
      exact absurd h (by simp)

/-- A thrifty site is no member access, and so has no part that is a field it names. -/
theorem isKey_of_mem_parts {site part : Site} (h : site.isThrifty = true)
    (hpart : part ∈ site.parts) : part.isKey = false := by
  by_cases hrecord : ∃ name members position, site = .decl (.record name members false position)
  · obtain ⟨name, members, position, rfl⟩ := hrecord
    obtain ⟨node, -, rfl⟩ := List.mem_map.1 hpart
    rfl
  · have haccess : ∀ base f position, site ≠ .expr (.member base f position) := by
      rintro base f position rfl
      simp [isThrifty] at h
    have hroles := not_key_or_member_of_mem_parts haccess
      (fun name members position heq => hrecord ⟨name, members, position, heq⟩) part hpart
    exact (Bool.or_eq_false_iff.1 hroles).1

/-- What a thrifty site leaves out takes no number. -/
theorem sum_taken_leftOut {site : Site} (h : site.isThrifty = true) (hkey : site.isKey = false)
    (inChain : Bool) : (site.leftOut.map (taken inChain)).sum = 0 := by
  cases site with
  | expr node =>
      cases node with
      | operatorCall operator args position =>
          cases args with
          | nil => simp [leftOut, droppedOperands]
          | cons stream operands =>
              simp only [leftOut, List.length_cons, droppedOperands]
              cases huse : (operatorUse operator (operands.length + 1)).isChain with
              | false => rfl
              | true =>
                  have hbare : isBareStream stream = true := by simpa [isThrifty, huse] using h
                  cases hchain : (expr stream).isChain with
                  | true => rfl
                  | false => simp [taken_of_isBareStream hbare hchain]
      | _ => rfl
  | loopInit init position =>
      have hlists : init.listsOthers = false := by simpa [isThrifty] using h
      simp [leftOut, hlists]
  | key f => simp [isKey] at hkey
  | _ => rfl

/-- **Thrifty sites lose nothing.** -/
theorem lost_eq_zero {site : Site} (hkey : site.isKey = false)
    (h : ∀ other ∈ site.live, other.isThrifty = true) (inChain : Bool) :
    site.lost inChain = 0 := by
  induction site using Site.induction generalizing inChain with
  | h site ih =>
      have hsite := h site (mem_live_self site)
      have hkept : ∀ part ∈ site.kept, part.lost (inChain || site.isChain) = 0 := by
        intro part hpart
        have hmem := kept_subset site hpart
        exact ih part hmem (isKey_of_mem_parts hsite hmem)
          (fun other hother => h other (mem_live_of_mem_parts hmem hother)) _
      have hsum : (site.kept.map (lost (inChain || site.isChain))).sum = 0 := by
        refine List.sum_eq_zero fun count hcount => ?_
        obtain ⟨part, hpart, rfl⟩ := List.mem_map.1 hcount
        exact hkept part hpart
      rw [lost_eq, sum_taken_leftOut hsite hkey, hsum]

end Site

/-! ### Programs -/

/-- Different numbers below a bound, as many as there are below it, are all of them. -/
theorem mem_iff_of_length_eq {ids : List Int} {n : Nat} (hnodup : ids.Nodup)
    (hbounds : ∀ id ∈ ids, 0 ≤ id ∧ id < n) (hlength : ids.length = n) (id : Int) :
    id ∈ ids ↔ 0 ≤ id ∧ id < n := by
  have hsubset : ids.toFinset ⊆ Finset.Ico 0 (n : Int) := by
    intro x hx
    exact Finset.mem_Ico.2 (hbounds x (List.mem_toFinset.1 hx))
  have hcard : (Finset.Ico 0 (n : Int)).card ≤ ids.toFinset.card := by
    rw [List.toFinset_card_of_nodup hnodup, hlength, Int.card_Ico]
    omega
  have heq := Finset.eq_of_subset_of_card_le hsubset hcard
  rw [← List.mem_toFinset, heq, Finset.mem_Ico]

/-- **The numbers of a document, and which ones are missing.**  If a program has a document, then
the numbers of the document are all different and lie between zero and the counter, and those that
are missing are exactly as many as were taken in parts that were left out: streams of chains, types
of fields that member accesses name, and lists in the place of the first clause of a loop header.
If no live site leaves out a part in which a number is taken, then the numbers are all those below
the counter. -/
theorem numbers_of_lowerUnit {verbose : Bool} {decls : List Node} {document : Schema}
    {last : State} (h : lowerUnit verbose decls {} = (.ok document, last)) :
    document.numbers.Nodup ∧ (∀ id ∈ document.numbers, 0 ≤ id ∧ id < last.nextId) ∧
      last.nextId = document.numbers.length + (Site.unit decls).lost false ∧
      ((∀ site ∈ (Site.unit decls).live, site.isThrifty = true) →
        ∀ id, id ∈ document.numbers ↔ 0 ≤ id ∧ id < last.nextId) := by
  have hrun : (Site.unit decls).lower verbose {} = (.ok document, last) := h
  have hnumbered := Site.numbered_lower hrun
  have hnext : last.nextId = (0 : Int) + (Site.unit decls).taken false := Site.nextId_of_lower hrun
  have hlength : document.numbers.length + (Site.unit decls).lost false =
      (Site.unit decls).taken false := Site.length_numbers_of_lower hrun (by simp)
  have hcount : last.nextId = document.numbers.length + (Site.unit decls).lost false := by omega
  refine ⟨hnumbered.nodup, hnumbered.bounds, hcount, ?_⟩
  intro hthrifty id
  have hlost : (Site.unit decls).lost false = 0 := Site.lost_eq_zero rfl hthrifty false
  have hall : last.nextId = (document.numbers.length : Int) := by omega
  rw [hall]
  refine mem_iff_of_length_eq hnumbered.nodup ?_ rfl id
  rw [← hall]
  exact hnumbered.bounds

/-- The function `int main() { for (n = 0; n < 9; n++) std::cout << n << std::endl; return n; }`. -/
def thriftyProgram : List Node :=
  let n : Node := .reference "n" (.plain { kind := .integer }) .unknown
  let print (stream operand : Node) : Node := .operatorCall (some "<<") [stream, operand] .unknown
  [.function "main" (.plain { kind := .integer }) []
    (.compound
      [.forStmt (.binary "=" n (.integer 0 .unknown) .unknown)
        (.binary "<" n (.integer 9 .unknown) .unknown) (.unary "++" n false .unknown)
        (print (print (.reference "cout" (.plain { kind := .stream }) .unknown) n)
          (.reference "endl" (.plain { kind := .streamManipulator }) .unknown))
        .unknown,
        .returnStmt n .unknown] .unknown)
    true .unknown]

theorem numbers_of_thriftyProgram :
    ∃ document last, lowerUnit false thriftyProgram {} = (.ok document, last) ∧
      last.nextId = 19 ∧ (∀ site ∈ (Site.unit thriftyProgram).live, site.isThrifty = true) ∧
      (Site.unit thriftyProgram).lost false = 0 ∧
      ∀ id, id ∈ document.numbers ↔ 0 ≤ id ∧ id < last.nextId := by
  have hthrifty : (Site.unit thriftyProgram).live.all Site.isThrifty = true := by
    decide +kernel
  have hnext : (lowerUnit false thriftyProgram {}).2.nextId = 19 := by decide +kernel
  obtain ⟨document, hdocument⟩ : ∃ document,
      (lowerUnit false thriftyProgram {}).1 = .ok document :=
    exists_ok_of_isSome (by decide +kernel)
  rcases hrun : lowerUnit false thriftyProgram {} with ⟨outcome, last⟩
  rw [hrun] at hdocument hnext
  obtain rfl : outcome = .ok document := hdocument
  refine ⟨document, last, rfl, hnext, List.all_eq_true.1 hthrifty, by decide +kernel, ?_⟩
  exact (numbers_of_lowerUnit hrun).2.2.2 (List.all_eq_true.1 hthrifty)

end Lowering

end TeachingTree

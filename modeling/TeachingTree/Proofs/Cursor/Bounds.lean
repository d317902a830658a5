/-
**The initialisation of a variable behind its array bounds.**

How a variable is initialised is told by the first token behind its name and its array bounds.  A
bound is a group in square brackets, which may hold groups of its own and any other tokens, signs of
an initialisation among them.  The brackets are counted, and a group ends where as many are closed
as were opened; so a balanced group is passed over as a whole, whatever it holds.

The tokens of a variable may end anywhere, also inside a group.  The scan takes one token a round
and asks first whether there is one, so it ends at the latest behind the last token.

Main definitions:

* `IsBalanced` — whether every square bracket among tokens has its partner among them;
* `BracketGroup` — balanced tokens in a pair of square brackets;
* `BoundsScan` — a place among the tokens and the brackets open there, `BoundsScan.round`, the next
  token taken, and `BoundsScan.remaining`, what is left behind the groups;
* `beginnings` — the tokens that begin an initialisation.

Main results:

* `skipBounds_groups` — groups are passed over, whatever follows them;
* `BoundsScan.exists_endsAfter`, `BoundsScan.index_le_of_rounds` — the scan ends, and it never goes
  past the last token;
* `initStyle?_of_variable` — **the token behind the bounds tells how a variable is initialised**.
-/

import TeachingTree.Cursor.Tokens
import TeachingTree.Proofs.Rounds

set_option relaxedAutoImplicit false
set_option autoImplicit false

namespace TeachingTree

/-! ### Groups -/

/-- Every square bracket among the tokens has its partner among them. -/
inductive IsBalanced : List Token → Prop where
  | nil : IsBalanced []
  | other {token : Token} {rest : List Token} (hopen : token.spelling ≠ "[")
      (hclose : token.spelling ≠ "]") (hrest : IsBalanced rest) : IsBalanced (token :: rest)
  | group {opening closing : Token} {inner rest : List Token} (hopen : opening.spelling = "[")
      (hclose : closing.spelling = "]") (hinner : IsBalanced inner) (hrest : IsBalanced rest) :
      IsBalanced (opening :: (inner ++ closing :: rest))

/-- Balanced tokens in a pair of square brackets. -/
structure BracketGroup where
  /-- The bracket that opens the group. -/
  opening : Token
  /-- The tokens inside. -/
  inner : List Token
  /-- The bracket that closes the group. -/
  closing : Token
  opening_spelling : opening.spelling = "["
  closing_spelling : closing.spelling = "]"
  isBalanced_inner : IsBalanced inner

/-- The tokens of a group. -/
def BracketGroup.tokens (group : BracketGroup) : List Token :=
  group.opening :: (group.inner ++ [group.closing])

section Brackets

variable {token : Token} (depth : Nat) (rest : List Token)

theorem skipBounds_opening (h : token.spelling = "[") :
    skipBounds depth (token :: rest) = skipBounds (depth + 1) rest := by
  cases depth <;> simp [skipBounds, h]

theorem skipBounds_closing (h : token.spelling = "]") :
    skipBounds (depth + 1) (token :: rest) = skipBounds depth rest := by
  simp [skipBounds, h]

theorem skipBounds_inside (hopen : token.spelling ≠ "[") (hclose : token.spelling ≠ "]") :
    skipBounds (depth + 1) (token :: rest) = skipBounds (depth + 1) rest := by
  simp [skipBounds, hopen, hclose]

theorem skipBounds_outside (h : token.spelling ≠ "[") :
    skipBounds 0 (token :: rest) = token :: rest := by
  simp [skipBounds, h]

@[simp] theorem skipBounds_nil : skipBounds depth [] = [] := by
  cases depth <;> rfl

end Brackets

/-- Inside a group, balanced tokens leave as many brackets open as before. -/
theorem skipBounds_of_isBalanced {inner : List Token} (h : IsBalanced inner) (depth : Nat)
    (rest : List Token) : skipBounds (depth + 1) (inner ++ rest) = skipBounds (depth + 1) rest := by
  induction h generalizing depth rest with
  | nil => rfl
  | other hopen hclose _ ih =>
      rw [List.cons_append, skipBounds_inside _ _ hopen hclose]
      exact ih depth rest
  | @group opening closing inner behind hopen hclose _ _ ihinner ihrest =>
      -- the group is passed over with one more bracket open, which its partner closes
      rw [List.cons_append, List.append_assoc, List.cons_append, skipBounds_opening _ _ hopen,
        ihinner, skipBounds_closing _ _ hclose]
      exact ihrest depth rest

theorem skipBounds_group (group : BracketGroup) (rest : List Token) :
    skipBounds 0 (group.tokens ++ rest) = skipBounds 0 rest := by
  rw [BracketGroup.tokens, List.cons_append, List.append_assoc,
    skipBounds_opening _ _ group.opening_spelling,
    skipBounds_of_isBalanced group.isBalanced_inner, List.singleton_append,
    skipBounds_closing _ _ group.closing_spelling]

/-- Groups are passed over, whatever follows them. -/
theorem skipBounds_groups (groups : List BracketGroup) (rest : List Token) :
    skipBounds 0 (groups.flatMap BracketGroup.tokens ++ rest) = skipBounds 0 rest := by
  induction groups with
  | nil => rfl
  | cons group groups ih =>
      rw [List.flatMap_cons, List.append_assoc, skipBounds_group, ih]

/-- What no bracket opens is left as it is. -/
theorem skipBounds_eq_self {rest : List Token} (h : rest.head?.map Token.spelling ≠ some "[") :
    skipBounds 0 rest = rest := by
  cases rest with
  | nil => rfl
  | cons token rest => exact skipBounds_outside rest (by simpa using h)

/-! ### The scan -/

/-- A place among the tokens of a variable, and the square brackets that are open there. -/
structure BoundsScan where
  /-- The number of tokens before the place. -/
  index : Nat
  /-- The number of brackets that are open; none between groups. -/
  depth : Nat
  deriving DecidableEq, Repr

namespace BoundsScan

/-- The brackets that are open behind a token.  Between groups, only a bracket that opens one is
taken. -/
def depthAfter? : Nat → Token → Option Nat
  | 0, token => if token.spelling = "[" then some 1 else none
  | depth + 1, token =>
    if token.spelling = "[" then some (depth + 2)
    else if token.spelling = "]" then some depth
    else some (depth + 1)

/-- Takes the next token, if there is one and it belongs to a group. -/
def round (tokens : List Token) (scan : BoundsScan) : Option BoundsScan :=
  match tokens[scan.index]? with
  | none => none
  | some token => (depthAfter? scan.depth token).map fun depth => ⟨scan.index + 1, depth⟩

/-- What is left of the tokens when the groups are passed over. -/
def remaining (tokens : List Token) (scan : BoundsScan) : List Token :=
  skipBounds scan.depth (tokens.drop scan.index)

theorem skipBounds_of_depthAfter? {depth behind : Nat} {token : Token}
    (h : depthAfter? depth token = some behind) (rest : List Token) :
    skipBounds depth (token :: rest) = skipBounds behind rest := by
  revert h
  fun_cases depthAfter? depth token with
  | case1 _ hopen =>
      rintro ⟨⟩
      exact skipBounds_opening 0 rest hopen
  | case2 => rintro ⟨⟩
  | case3 depth _ hopen =>
      rintro ⟨⟩
      exact skipBounds_opening (depth + 1) rest hopen
  | case4 _ _ hopen hclose =>
      rintro ⟨⟩
      exact skipBounds_closing behind rest hclose
  | case5 depth _ hopen hclose =>
      rintro ⟨⟩
      exact skipBounds_inside depth rest hopen hclose

theorem skipBounds_of_depthAfter?_eq_none {depth : Nat} {token : Token}
    (h : depthAfter? depth token = none) (rest : List Token) :
    skipBounds depth (token :: rest) = token :: rest := by
  revert h
  fun_cases depthAfter? depth token with
  | case2 _ hopen =>
      rintro -
      exact skipBounds_outside rest hopen
  | _ => rintro ⟨⟩

variable {tokens : List Token} {start scan after stop : BoundsScan} {count : Nat}

/-- A round passes over one token, which is there, and nothing else is lost. -/
theorem round_eq_some (h : round tokens scan = some after) :
    scan.index < tokens.length ∧ after.index = scan.index + 1 ∧
      remaining tokens after = remaining tokens scan := by
  rw [round] at h
  cases htoken : tokens[scan.index]? with
  | none => simp [htoken] at h
  | some token =>
      obtain ⟨hindex, hget⟩ := List.getElem?_eq_some_iff.1 htoken
      rw [htoken] at h
      obtain ⟨depth, hdepth, rfl⟩ := Option.map_eq_some_iff.1 h
      refine ⟨hindex, rfl, ?_⟩
      rw [remaining, remaining, List.drop_eq_getElem_cons hindex, hget,
        skipBounds_of_depthAfter? hdepth]

/-- The scan ends at what is left of the tokens. -/
theorem remaining_of_round_eq_none (h : round tokens scan = none) :
    remaining tokens scan = tokens.drop scan.index := by
  rw [round] at h
  rw [remaining]
  cases htoken : tokens[scan.index]? with
  | none => rw [List.drop_eq_nil_iff.2 (List.getElem?_eq_none_iff.1 htoken), skipBounds_nil]
  | some token =>
      obtain ⟨hindex, hget⟩ := List.getElem?_eq_some_iff.1 htoken
      rw [htoken] at h
      rw [List.drop_eq_getElem_cons hindex, hget]
      exact skipBounds_of_depthAfter?_eq_none (Option.map_eq_none_iff.1 h) _

/-- The scan never goes past the last token. -/
theorem index_le_of_rounds (h : Rounds (round tokens) start count scan)
    (hstart : start.index ≤ tokens.length) : scan.index ≤ tokens.length := by
  cases h with
  | zero => exact hstart
  | succ _ hround =>
      obtain ⟨hindex, hafter, -⟩ := round_eq_some hround
      omega

theorem remaining_of_rounds (h : Rounds (round tokens) start count scan) :
    remaining tokens scan = remaining tokens start := by
  induction h with
  | zero => rfl
  | succ _ hround ih => rw [(round_eq_some hround).2.2, ih]

/-- The scan ends: there is one token less behind every round. -/
theorem exists_endsAfter (tokens : List Token) (start : BoundsScan) :
    ∃ count stop, EndsAfter (round tokens) count start stop := by
  cases hround : round tokens start with
  | none => exact ⟨0, start, .zero, hround⟩
  | some after =>
      obtain ⟨hindex, hafter, -⟩ := round_eq_some hround
      obtain ⟨count, stop, hstop⟩ := exists_endsAfter tokens after
      exact ⟨count + 1, stop, hstop.cons hround⟩
termination_by tokens.length - start.index

/-- Where the scan ends, the tokens behind the groups begin. -/
theorem drop_of_endsAfter (h : EndsAfter (round tokens) count start stop) :
    tokens.drop stop.index = remaining tokens start := by
  rw [← remaining_of_round_eq_none h.ends, remaining_of_rounds h.rounds]

end BoundsScan

/-! ### Variables -/

/-- The tokens that begin an initialisation. -/
def beginnings : List (String × InitStyle) :=
  [("=", .assigned), ("(", .called), ("\x7b", .listed)]

/-- The initialisation that a token begins, if there is one and it begins one. -/
def beginning? (token : Option Token) : Option InitStyle :=
  token.bind fun token => beginnings.lookup token.spelling

theorem styleOfToken?_eq (spelling : String) :
    styleOfToken? spelling = beginnings.lookup spelling := by
  simp only [styleOfToken?, beginnings, List.lookup_cons, List.lookup_nil]
  cases spelling == "=" <;> cases spelling == "(" <;> cases spelling == "\x7b" <;> rfl

/-- The token behind the array bounds tells how a variable is initialised. -/
theorem initStyle?_eq {nameOffset : Int} {before behind : List Token} {name : Token}
    (hname : name.start = nameOffset) (hbefore : ∀ token ∈ before, token.start ≠ nameOffset) :
    initStyle? nameOffset (before ++ name :: behind) = beginning? (skipBounds 0 behind).head? := by
  have hdrop : (before ++ name :: behind).dropWhile (·.start != nameOffset) = name :: behind := by
    rw [List.dropWhile_append_of_pos (by simpa using hbefore)]
    simp [hname]
  rw [initStyle?, hdrop]
  cases hremaining : skipBounds 0 behind with
  | nil => simp [hremaining, beginning?]
  | cons token rest => simp [hremaining, beginning?, styleOfToken?_eq]

/-- **The token behind the array bounds tells how a variable is initialised.**  The scan for the end
of the bounds ends, and never goes past the last token, wherever it starts and whatever the brackets
are.  It starts behind the name of the variable, and the token at which it ends tells the
initialisation; behind groups in square brackets this is the first token that opens no further
group, whatever stands before the name, inside the groups or behind that token. -/
theorem initStyle?_of_variable (head : CursorHead) :
    (∀ start ≤ head.tokens.length,
      (∃ count stop, EndsAfter (BoundsScan.round head.tokens) count ⟨start, 0⟩ stop) ∧
      ∀ count scan, Rounds (BoundsScan.round head.tokens) ⟨start, 0⟩ count scan →
        scan.index ≤ head.tokens.length) ∧
    ∀ (before behind : List Token) (name : Token), head.tokens = before ++ name :: behind →
      name.start = head.nameOffset → (∀ token ∈ before, token.start ≠ head.nameOffset) →
      (∀ count stop,
        EndsAfter (BoundsScan.round head.tokens) count ⟨before.length + 1, 0⟩ stop →
          initStyle? head.nameOffset head.tokens = beginning? head.tokens[stop.index]?) ∧
      ∀ (groups : List BracketGroup) (rest : List Token),
        behind = groups.flatMap BracketGroup.tokens ++ rest →
          rest.head?.map Token.spelling ≠ some "[" →
            initStyle? head.nameOffset head.tokens = beginning? rest.head? := by
  constructor
  · intro start hstart
    exact ⟨BoundsScan.exists_endsAfter head.tokens ⟨start, 0⟩,
      fun count scan hrounds => BoundsScan.index_le_of_rounds hrounds hstart⟩
  · intro before behind name htokens hname hbefore
    rw [htokens, initStyle?_eq hname hbefore]
    constructor
    · intro count stop hstop
      have hdrop := BoundsScan.drop_of_endsAfter hstop
      have hbehind : (before ++ name :: behind).drop (before.length + 1) = behind := by
        rw [← List.singleton_append, ← List.append_assoc]
        exact List.drop_left' (by simp)
      rw [BoundsScan.remaining, hbehind] at hdrop
      rw [← hdrop, List.head?_drop]
    · rintro groups rest rfl hrest
      rw [skipBounds_groups, skipBounds_eq_self hrest]

/-- The group `[f(0)[1]]`. -/
def nestedBound : BracketGroup where
  opening := ⟨"[", 5, 6⟩
  inner := [⟨"f", 6, 7⟩, ⟨"(", 7, 8⟩, ⟨"0", 8, 9⟩, ⟨")", 9, 10⟩, ⟨"[", 10, 11⟩, ⟨"1", 11, 12⟩,
    ⟨"]", 12, 13⟩]
  closing := ⟨"]", 13, 14⟩
  opening_spelling := rfl
  closing_spelling := rfl
  isBalanced_inner := by
    refine .other (by decide) (by decide) (.other (by decide) (by decide)
      (.other (by decide) (by decide) (.other (by decide) (by decide) ?_)))
    exact .group rfl rfl (.other (by decide) (by decide) .nil) .nil

/-- The variable `int a[f(0)[1]] = {`, whose tokens end inside a list of values. -/
def nestedVariable : CursorHead where
  kind := .varDecl
  location := some ⟨1, 5, 4, some "main.cpp"⟩
  tokens := ⟨"int", 0, 3⟩ :: ⟨"a", 4, 5⟩ ::
    (nestedBound.tokens ++ [⟨"=", 15, 16⟩, ⟨"\x7b", 17, 18⟩])

/-- Behind a bound with a call and a bound inside, the scan ends at the sign of the
initialisation. -/
theorem initStyle?_nestedVariable :
    initStyle? nestedVariable.nameOffset nestedVariable.tokens = some .assigned ∧
      ∃ count stop, EndsAfter (BoundsScan.round nestedVariable.tokens) count ⟨2, 0⟩ stop ∧
        stop.index ≤ nestedVariable.tokens.length ∧
        beginning? nestedVariable.tokens[stop.index]? = some .assigned := by
  obtain ⟨hscan, hstyle⟩ := initStyle?_of_variable nestedVariable
  obtain ⟨⟨count, stop, hstop⟩, hindex⟩ := hscan 2 (by decide)
  obtain ⟨hends, hgroups⟩ := hstyle [⟨"int", 0, 3⟩]
    (nestedBound.tokens ++ [⟨"=", 15, 16⟩, ⟨"\x7b", 17, 18⟩]) ⟨"a", 4, 5⟩ rfl rfl (by decide)
  have hassigned : initStyle? nestedVariable.nameOffset nestedVariable.tokens = some .assigned :=
    hgroups [nestedBound] [⟨"=", 15, 16⟩, ⟨"\x7b", 17, 18⟩] rfl (by decide)
  refine ⟨hassigned, count, stop, hstop, hindex count stop hstop.rounds, ?_⟩
  rw [← hends count stop hstop, hassigned]

end TeachingTree

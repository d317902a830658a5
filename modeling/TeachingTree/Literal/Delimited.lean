/-
The bodies of literals.

A literal is delimited by one or three quotes of either kind.

Main definitions:

* `takeBody?` — the characters up to the closing quotes;
* `takeQuoted?` — the body of a literal after its first quote.
-/

set_option relaxedAutoImplicit false
set_option autoImplicit false

namespace TeachingTree.Literal

/-- Whether a character delimits literals. -/
def isQuote (c : Char) : Bool := c == '"' || c == '\''

/-- The rest after two more quotes, if they are there. -/
def twoMore? (quote : Char) : List Char → Option (List Char)
  | a :: b :: rest => if a == quote && b == quote then some rest else none
  | _ => none

/-- Takes the body of a literal and its closing quotes off the front.  A line feed without a
backslash before it may stand only between triple quotes. -/
def takeBody? (quote : Char) (isTriple : Bool) : List Char → Option (List Char × List Char)
  | [] => none
  | c :: rest =>
    if c == '\\' then
      match rest with
      | [] => none
      | d :: rest => (takeBody? quote isTriple rest).map fun (body, rest) => (c :: d :: body, rest)
    else if c == quote then
      if isTriple then
        match twoMore? quote rest with
        | some after => some ([], after)
        | none => (takeBody? quote isTriple rest).map fun (body, rest) => (c :: body, rest)
      else some ([], rest)
    else if c == '\n' && !isTriple then none
    else (takeBody? quote isTriple rest).map fun (body, rest) => (c :: body, rest)

/-- Takes the body of a literal after its opening quote off the front. -/
def takeQuoted? (quote : Char) (cs : List Char) : Option (List Char × List Char) :=
  match twoMore? quote cs with
  | some rest => takeBody? quote true rest
  | none => takeBody? quote false cs

/-! ### Lengths -/

theorem length_twoMore?_le {quote : Char} {cs rest : List Char}
    (h : twoMore? quote cs = some rest) : rest.length ≤ cs.length := by
  unfold twoMore? at h
  split at h
  · split at h
    · simp only [Option.some.injEq] at h
      subst h
      simp only [List.length_cons]
      omega
    · simp at h
  · simp at h

theorem length_takeBody?_lt {quote : Char} {isTriple : Bool} {cs body rest : List Char}
    (h : takeBody? quote isTriple cs = some (body, rest)) : rest.length < cs.length := by
  fun_induction takeBody? quote isTriple cs generalizing body with
  | case1 => simp at h
  | case2 => simp at h
  | case3 c _ d tail ih =>
      simp only [Option.map_eq_some_iff, Prod.mk.injEq, Prod.exists] at h
      obtain ⟨b, r, hb, -, rfl⟩ := h
      have := ih hb
      simp only [List.length_cons]
      omega
  | case4 c tail _ _ _ after ha =>
      simp only [Option.some.injEq, Prod.mk.injEq] at h
      obtain ⟨-, rfl⟩ := h
      exact Nat.lt_succ_of_le (length_twoMore?_le ha)
  | case5 c tail _ _ _ _ ih =>
      simp only [Option.map_eq_some_iff, Prod.mk.injEq, Prod.exists] at h
      obtain ⟨b, r, hb, -, rfl⟩ := h
      exact Nat.lt_succ_of_lt (ih hb)
  | case6 =>
      simp only [Option.some.injEq, Prod.mk.injEq] at h
      obtain ⟨-, rfl⟩ := h
      simp
  | case7 => simp at h
  | case8 c tail _ _ _ ih =>
      simp only [Option.map_eq_some_iff, Prod.mk.injEq, Prod.exists] at h
      obtain ⟨b, r, hb, -, rfl⟩ := h
      exact Nat.lt_succ_of_lt (ih hb)

theorem length_takeQuoted?_lt {quote : Char} {cs body rest : List Char}
    (h : takeQuoted? quote cs = some (body, rest)) : rest.length < cs.length := by
  unfold takeQuoted? at h
  split at h
  · rename_i opened ho
    have h₁ := length_takeBody?_lt h
    have h₂ := length_twoMore?_le ho
    omega
  · exact length_takeBody?_lt h

end TeachingTree.Literal

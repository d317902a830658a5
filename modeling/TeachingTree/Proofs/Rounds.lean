/-
**The rounds of a loop.**

A loop is given by what one round makes of its state, or by nothing where its condition fails.  What
holds in every state of a loop is shown along its rounds, from the start on.  That a loop ends is
shown the other way round, from what is left to do after the first round, so a round may be put at
either end.

Main definitions:

* `Rounds` — so many rounds of a loop lead from one state to another;
* `EndsAfter` — so many rounds lead to a state in which the loop ends.

Main results:

* `Rounds.cons` — a round in front of others;
* `EndsAfter.cons` — a loop ends where the rest of it after one round does.
-/

set_option relaxedAutoImplicit false
set_option autoImplicit false

namespace TeachingTree

variable {σ : Type} {round : σ → Option σ}

/-- So many rounds of a loop lead from a state to another one. -/
inductive Rounds (round : σ → Option σ) (start : σ) : Nat → σ → Prop where
  | zero : Rounds round start 0 start
  | succ {count : Nat} {state after : σ} (h : Rounds round start count state)
      (hround : round state = some after) : Rounds round start (count + 1) after

/-- A loop ends after so many rounds, in the given state. -/
structure EndsAfter (round : σ → Option σ) (count : Nat) (start stop : σ) : Prop where
  rounds : Rounds round start count stop
  ends : round stop = none

/-- A round may be put in front of others. -/
theorem Rounds.cons {count : Nat} {start first state : σ} (h : round start = some first)
    (hrest : Rounds round first count state) : Rounds round start (count + 1) state := by
  induction hrest with
  | zero => exact .succ .zero h
  | succ _ hround ih => exact .succ ih hround

/-- A loop ends where the rest of it after one round does. -/
theorem EndsAfter.cons {count : Nat} {start first stop : σ} (h : round start = some first)
    (hrest : EndsAfter round count first stop) : EndsAfter round (count + 1) start stop :=
  ⟨hrest.rounds.cons h, hrest.ends⟩

end TeachingTree

/-
**What is built does not depend on what was built before.**

Building a source tree logs lines, and one warning only once for all source files.  The state in
which a tree is built decides whether the warning is logged again, and nothing else: the same tree
is built, or building stops at the same literal.

No action looks at the state but the one that gives the warning, and that one always goes on.  So
what an action gives is the same from any two states, and then so is what the next one gives: this
is a property that goes over to sequences.

Main definitions:

* `Build.Steady` — an action gives the same, or stops for the same reason, from whatever state.

Main results:

* `Build.Steady.bind` — actions one after the other;
* `Building.steady_buildUnit` — **the declarations of a program do not depend on the state**.
-/

import TeachingTree.Proofs.Building.Literals

set_option relaxedAutoImplicit false
set_option autoImplicit false

namespace TeachingTree

namespace Build

variable {α β : Type}

/-- An action gives the same, or stops for the same reason, from whatever state. -/
def Steady (action : Build α) : Prop :=
  ∀ s t : Building.State, (action s).1 = (action t).1

theorem steady_pure (a : α) : Steady (pure a : Build α) := fun _ _ => rfl

/-- The warning is given or not, but what comes next is the same. -/
theorem steady_warnOnce (line : String) : Steady (warnOnce line) := fun _ _ => rfl

theorem Steady.bind {x : Build α} {f : α → Build β} (hx : Steady x) (hf : ∀ a, Steady (f a)) :
    Steady (x >>= f) := by
  intro s t
  have hsame := hx s t
  rw [bind_apply, bind_apply]
  rcases hs : x s with ⟨outcome, s'⟩
  rcases ht : x t with ⟨outcome', t'⟩
  rw [hs, ht] at hsame
  obtain rfl : outcome = outcome' := hsame
  cases outcome with
  | error e => rfl
  | ok a => exact hf a s' t'

/-- What is decided does not depend on the state. -/
theorem Decided.steady {fault : Option LiteralError} {action : Build α}
    (h : Decided fault action) : Steady action := by
  intro s t
  cases fault with
  | none =>
      obtain ⟨a, ha⟩ := h
      rw [ha, ha]
  | some e => rw [h s, h t]

/-- Not to depend on the state goes over to sequences. -/
def Law.steady : Law := ⟨Steady, steady_pure, steady_warnOnce, Steady.bind⟩

end Build

namespace Building

open Build

/-- **The declarations of a program do not depend on the state**, and neither does whether building
them stops. -/
theorem steady_buildUnit (names : Text.CharacterNames) (mainFile : String) (mainFileOnly : Bool)
    (cursors : List Cursor) : Steady (buildUnit names mainFile mainFileOnly cursors) :=
  holds_buildUnit .steady names mainFile mainFileOnly
    fun _ _ _ _ _ => onLiteral_of_decided fun _ h => h.steady

end Building

end TeachingTree

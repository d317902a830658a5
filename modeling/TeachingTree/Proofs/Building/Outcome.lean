/-
**What the actions that build a source tree give.**

An action that builds a part of a source tree changes the state and may stop.  What matters here is
only what it gives when it does not stop, from whatever state.  The types that are built are
complete: where the parser exposes no element type of a vector, the spelling of the vector names
one.

Main definitions:

* `Build.Yields` — a property of all that an action gives.

Main results:

* `Build.Yields.bind`, `Build.Yields.inOrder` — actions one after the other;
* `Building.yields_sourceType` — **the types that are built are complete**.
-/

import TeachingTree.Proofs.Building.Actions
import TeachingTree.Proofs.Source.Grammar

set_option relaxedAutoImplicit false
set_option autoImplicit false

namespace TeachingTree

namespace Build

variable {α β : Type}

/-- A property of all that an action gives, from whatever state. -/
def Yields (P : α → Prop) (action : Build α) : Prop :=
  ∀ (s : Building.State) (a : α) (after : Building.State), action s = (.ok a, after) → P a

variable {P : α → Prop} {Q : β → Prop}

theorem Yields.pure {a : α} (h : P a) : Yields P (pure a : Build α) := by
  rintro s a' after ⟨⟩
  exact h

/-- An action that stops gives nothing. -/
theorem yields_stop (e : LiteralError) : Yields P (stop e) := by
  intro s a after h
  cases h

theorem Yields.bind {x : Build α} {f : α → Build β} (hx : Yields P x)
    (hf : ∀ a, P a → Yields Q (f a)) : Yields Q (x >>= f) := by
  intro s b last h
  rw [bind_apply] at h
  rcases hrun : x s with ⟨e | a, after⟩
  · rw [hrun] at h
    cases h
  · rw [hrun] at h
    exact hf a (hx s a after hrun) after b last h

/-- Nothing need be known of what is not used. -/
theorem yields_true (action : Build α) : Yields (fun _ => True) action := fun _ _ _ _ => trivial

theorem Yields.mono {P' : α → Prop} {action : Build α} (h : Yields P action)
    (himp : ∀ a, P a → P' a) : Yields P' action := fun s a after hrun => himp a (h s a after hrun)

/-- Actions in order give a list of what they give one by one. -/
theorem Yields.inOrder {actions : List (Build α)} (h : ∀ action ∈ actions, Yields P action) :
    Yields (fun results => ∀ result ∈ results, P result) (inOrder actions) := by
  induction actions with
  | nil => exact .pure (by simp)
  | cons action actions ih =>
      rw [Build.inOrder]
      refine (h action (List.mem_cons_self ..)).bind fun result hresult => ?_
      refine (ih fun other hother => h other (List.mem_cons_of_mem _ hother)).bind
        fun results hresults => .pure ?_
      exact List.forall_mem_cons.2 ⟨hresult, hresults⟩

end Build

namespace Building

open Build

variable (context : Context)

/-! ### Types -/

/-- A record is given a complete type: the elements of a vector are its first template argument, or
else those that its spelling names. -/
theorem yields_recordType (head : TypeHead) (isConst : Bool) {element : Option (Build SourceType)}
    (helement : ∀ action, element = some action → Yields SourceType.Complete action) :
    Yields SourceType.Complete (recordType context head isConst element) := by
  simp only [recordType]
  split
  · exact .pure (.plain (by simp))
  split
  · cases element with
    | some action => exact (helement action rfl).bind fun type htype => .pure (.containing htype)
    | none =>
        exact (yields_true _).bind fun _ _ =>
          .pure ((SourceType.complete_ofSignature _).withConst isConst)
  split
  · exact .pure (.plain (by simp))
  cases head.declaration with
  | none => exact .pure (.plain (by simp))
  | some declaration =>
      simp only
      split <;> exact .pure (.plain (by simp))

theorem yields_canonicalType (head : TypeHead) (isConst : Bool) {pointee : Build SourceType}
    {element : Option (Build SourceType)} (hpointee : Yields SourceType.Complete pointee)
    (helement : ∀ action, element = some action → Yields SourceType.Complete action) :
    Yields SourceType.Complete (canonicalType context head isConst pointee element) := by
  simp only [canonicalType]
  cases head.sort with
  | reference => exact hpointee
  | record => exact yields_recordType context head isConst helement
  | _ => exact .pure (.plain (by simp))

mutual

/-- **The types that are built are complete.** -/
theorem yields_sourceType : ∀ type, Yields SourceType.Complete (sourceType context type)
  | .mk head none pointee arguments => by
      rw [sourceType]
      exact yields_canonicalType context head _ (yields_pointedType pointee)
        (yields_firstArgument arguments)
  | .mk outer (some (.mk head _ pointee arguments)) _ _ => by
      rw [sourceType]
      exact yields_canonicalType context head _ (yields_pointedType pointee)
        (yields_firstArgument arguments)

theorem yields_pointedType :
    ∀ pointee, Yields SourceType.Complete (pointedType context pointee)
  | none => by
      rw [pointedType]
      exact .pure (.plain (by simp))
  | some type => by
      rw [pointedType]
      exact yields_sourceType type

theorem yields_firstArgument : ∀ arguments action,
    firstArgument context arguments = some action → Yields SourceType.Complete action
  | [], _, h => by simp [firstArgument] at h
  | type :: _, action, h => by
      rw [firstArgument] at h
      split at h
      · simp at h
      · cases h
        exact yields_sourceType type

end

theorem yields_nameType (type : CursorType) :
    Yields SourceType.Complete (nameType context type) := by
  simp only [nameType]
  split
  · exact .pure (.plain (by simp))
  · exact yields_sourceType context type

theorem yields_valueType (type : CursorType) :
    Yields SourceType.Complete (valueType context type) :=
  yields_pointedType context type.withoutReference

theorem yields_fieldOf (spelling : String) (type : CursorType) (place : Option Place) :
    Yields (fun f : Field => f.type.Complete) (fieldOf context spelling type place) :=
  (yields_valueType context type).bind fun _ htype => .pure htype

end Building

end TeachingTree

/-
Parameters of functions in expressions.

Main definitions:

* `Parameter` — the parameters, and the marks between them;
* `parametersInOrder` — whether parameters may stand in their order.
-/

set_option relaxedAutoImplicit false
set_option autoImplicit false

namespace TeachingTree.Literal

/-- A parameter of a function, or what marks the parameters around it. -/
inductive Parameter where
  /-- A parameter, possibly with a default. -/
  | plain (hasDefault : Bool)
  /-- The end of the parameters without names. -/
  | slash
  /-- The start of the parameters with names. -/
  | star
  /-- A parameter for all further arguments without names. -/
  | starred
  /-- A parameter for all further arguments with names. -/
  | doublyStarred
  deriving DecidableEq, Repr

/-- Whether parameters may follow a star. -/
def mayFollowStar : List Parameter → Bool
  | [] => true
  | .plain _ :: parameters => mayFollowStar parameters
  | parameters => parameters = [.doublyStarred]

/-- Whether parameters may stand in this order.  The flags say whether a slash may come next or
later, and whether only parameters with defaults may. -/
def parametersInOrder (slashNext slashLater needsDefault : Bool) : List Parameter → Bool
  | [] => true
  | .plain hasDefault :: parameters =>
    (hasDefault || !needsDefault) &&
      parametersInOrder slashLater slashLater hasDefault parameters
  | .slash :: parameters => slashNext && parametersInOrder false false needsDefault parameters
  | .star :: parameters =>
    (parameters.head? matches some (.plain _)) && mayFollowStar parameters
  | .starred :: parameters => mayFollowStar parameters
  | .doublyStarred :: parameters => parameters.isEmpty

end TeachingTree.Literal

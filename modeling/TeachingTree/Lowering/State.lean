/-
The state of a lowering, and the ways in which it stops.

A lowering hands out numbers, remembers whether it is inside a chain of stream operators, and logs
lines.  It stops at a node for which there is no rule.

Main definitions:

* `LoweringError` — why a lowering stops, and `LoweringError.message`;
* `Lowering.State` — the next number, the chain flag and the log;
* `Lower` — actions that change the state and may stop; the state survives a stop;
* `Lower.newId`, `Lower.log`, `Lower.withinChain` — the actions on the parts of the state.
-/

import TeachingTree.Position

set_option relaxedAutoImplicit false
set_option autoImplicit false

namespace TeachingTree

/-! ### Errors -/

/-- Why a lowering stops. -/
inductive LoweringError where
  /-- There is no rule for a node of this class as an expression or statement. -/
  | noRule (className : String) (position : Option Position)
  /-- There is no rule for a node of this class as a declaration. -/
  | noDeclarationRule (className : String) (position : Option Position)
  /-- A construct of this kind is outside the subset. -/
  | unsupported (kindName : String) (position : Position)
  deriving DecidableEq, Repr

namespace LoweringError

/-- The place of the node that stopped the lowering. -/
def position? : LoweringError → Option Position
  | .noRule _ position => position
  | .noDeclarationRule _ position => position
  | .unsupported _ position => some position

/-- What stopped the lowering, without its place. -/
def reason : LoweringError → String
  | .noRule className _ => "No lowering rule for " ++ className
  | .noDeclarationRule className _ => "No lowering rule for declaration " ++ className
  | .unsupported kindName _ => "Unsupported construct " ++ kindName

/-- The text of the error, which ends with the place if that is known. -/
def message (e : LoweringError) : String := e.reason ++ Position.errorSuffix e.position?

end LoweringError

/-! ### State -/

namespace Lowering

/-- The state of a lowering. -/
structure State where
  /-- The next number to hand out. -/
  nextId : Int := 0
  /-- Whether a chain of stream operators is being lowered. -/
  chainActive : Bool := false
  /-- The lines logged so far. -/
  log : List String := []
  deriving DecidableEq, Repr, Inhabited

end Lowering

/-- Actions of a lowering. -/
abbrev Lower := ExceptT LoweringError (StateM Lowering.State)

namespace Lower

/-- Hands out the next number. -/
def newId : Lower Int := fun s => (.ok s.nextId, { s with nextId := s.nextId + 1 })

/-- Logs a line. -/
def log (line : String) : Lower Unit := fun s => (.ok (), { s with log := s.log ++ [line] })

/-- Stops. -/
def stop {α : Type} (e : LoweringError) : Lower α := fun s => (.error e, s)

/-- Whether a chain of stream operators is being lowered. -/
def inChain : Lower Bool := fun s => (.ok s.chainActive, s)

/-- Runs an action as part of a chain.  However it ends, the flag is cleared by whoever found it
clear, and by nobody else. -/
def withinChain {α : Type} (action : Lower α) : Lower α := fun s =>
  let (outcome, after) := action { s with chainActive := true }
  (outcome, if s.chainActive then after else { after with chainActive := false })

end Lower

end TeachingTree

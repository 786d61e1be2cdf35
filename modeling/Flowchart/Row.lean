import Flowchart.Kind

/-!
# Rows of the transition table

A row holds the outgoing transitions of one state.  The constructor is the kind of the
state, so a row cannot have a number of targets that no kind has.
-/

namespace Flowchart

/-- The position of a state in the order of declaration. -/
abbrev StateId := Nat

/-- How a state is referred to where it has no name. -/
def StateId.tag (id : StateId) : String :=
  "#" ++ toString id

inductive Row where
  | terminal
  | action (next : StateId)
  | decision (onTrue onFalse : StateId)
  deriving DecidableEq, Repr

namespace Row

def kind : Row → Kind
  | terminal => .terminal
  | action _ => .action
  | decision _ _ => .decision

/-- The targets in order, that of a true outcome first. -/
def targets : Row → List StateId
  | terminal => []
  | action next => [next]
  | decision onTrue onFalse => [onTrue, onFalse]

/-- The target for an outcome.  An action has the same target for both. -/
def next? : Row → Bool → Option StateId
  | terminal, _ => none
  | action next, _ => some next
  | decision onTrue onFalse, outcome => some (if outcome then onTrue else onFalse)

theorem length_targets (row : Row) : row.targets.length = row.kind.arity := by
  cases row <;> rfl

end Row
end Flowchart

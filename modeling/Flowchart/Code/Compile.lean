import Flowchart.Directory
import Flowchart.Row

/-!
# From codes to rows

A code becomes a row of the transition table once its names are looked up and the place
where it stands is known.
-/

namespace Flowchart
namespace Code

/-- The position after this one, if a state is declared there. -/
def successor? (position count : Nat) : Option StateId :=
  if position + 1 < count then some (position + 1) else none

/-- The row of a state among `count` declared states.  Of two faults of one branch, an
unknown target comes before a missing successor. -/
def compile (directory : Directory) (count position : Nat) (state text : String) :
    Except BuildError Row :=
  let resolve (token : String) : Except BuildError StateId :=
    match directory.resolve? token with
    | some id => .ok id
    | none => .error (.unknownTarget state text token)
  match parse text with
  | .error reason => .error (.malformedCode state text reason)
  | .ok .stop => .ok .terminal
  | .ok .next =>
    match successor? position count with
    | some id => .ok (.action id)
    | none => .ok .terminal
  | .ok (.goto target) => do
    let id ← resolve target
    return .action id
  | .ok (.branch outcome target) => do
    let id ← resolve target
    match successor? position count with
    | none => .error (.malformedCode state text .noSuccessor)
    | some other => return if outcome then .decision id other else .decision other id
  | .ok (.both onTrue onFalse) => do
    let onTrue ← resolve onTrue
    let onFalse ← resolve onFalse
    return .decision onTrue onFalse

end Code
end Flowchart

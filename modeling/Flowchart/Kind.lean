import Flowchart.Json.Reader
import Flowchart.Json.Writer

/-!
# Kinds of states

The kind of a state is never declared.  It follows from the number of its outgoing
transitions.
-/

namespace Flowchart

inductive Kind where
  /-- One transition, taken after a procedure has run. -/
  | action
  /-- Two transitions, chosen between by a predicate. -/
  | decision
  /-- No transition.  A run halts here. -/
  | terminal
  deriving DecidableEq, Repr

namespace Kind

def ofArity? : Nat → Option Kind
  | 0 => some terminal
  | 1 => some action
  | 2 => some decision
  | _ => none

/-- The number of outgoing transitions. -/
def arity : Kind → Nat
  | terminal => 0
  | action => 1
  | decision => 2

theorem ofArity?_arity (kind : Kind) : ofArity? kind.arity = some kind := by
  cases kind <;> rfl

def isTerminal (kind : Kind) : Bool :=
  kind = terminal

def name : Kind → String
  | action => "action"
  | decision => "decision"
  | terminal => "terminal"

def readJson? (text : String) : Option Kind :=
  (Json.read? text).bind
    (Json.Value.choice?
      [("action", action), ("decision", decision), ("terminal", terminal)])

def writeJson (kind : Kind) : String :=
  Json.writeString kind.name

end Kind
end Flowchart

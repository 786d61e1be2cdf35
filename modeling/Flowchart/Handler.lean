import Flowchart.Kind
import Flowchart.Text.Lowercase

/-!
# Handlers

Every state that is not terminal has a handler.  An action changes the data of an
instance; a decision looks at the data and picks the branch.

Besides the data a handler may use the surroundings of the instance, such as a counter
of calls or a source of time.  A decision may change the surroundings but has no way to
change the data.  Either kind may fail.  What an action has done to the data before it
fails stays done.
-/

namespace Flowchart

/-- What a handler reports when it cannot go on. -/
structure Failure where
  message : String
  deriving DecidableEq, Repr

/-- The behaviour of a state, on data `D` in surroundings `ω`. -/
inductive Handler (ω D : Type) where
  | action (run : ω → D → ω × D × Except Failure Unit)
  | decision (test : ω → D → ω × Except Failure Bool)

namespace Handler

variable {ω D : Type}

/-- An action that always succeeds. -/
def procedure (f : D → D) : Handler ω D :=
  .action fun w d => (w, f d, .ok ())

/-- An action that may reject the data, and then leaves it as it is. -/
def tryProcedure (f : D → Except Failure D) : Handler ω D :=
  .action fun w d =>
    match f d with
    | .ok d => (w, d, .ok ())
    | .error e => (w, d, .error e)

/-- A decision that always succeeds. -/
def predicate (p : D → Bool) : Handler ω D :=
  .decision fun w d => (w, .ok (p d))

/-- A decision that may reject the data. -/
def tryPredicate (p : D → Except Failure Bool) : Handler ω D :=
  .decision fun w d => (w, p d)

/-- The kind of state that the handler can serve. -/
def kind : Handler ω D → Kind
  | action _ => .action
  | decision _ => .decision

def runAction (h : Handler ω D) (w : ω) (d : D) : ω × D × Except Failure Unit :=
  match h with
  | action run => run w d
  | decision _ => (w, d, .error ⟨"decision handler invoked as an action"⟩)

def evaluate (h : Handler ω D) (w : ω) (d : D) : ω × Except Failure Bool :=
  match h with
  | decision test => test w d
  | action _ => (w, .error ⟨"action handler evaluated as a decision"⟩)

end Handler

/-- The name under which the handler of a state is registered: the name of the state
with its first character in its small form. -/
def handlerName (state : String) : String :=
  match state.toList with
  | [] => ""
  | first :: rest => String.ofList (Text.lowercase first ++ rest)

end Flowchart

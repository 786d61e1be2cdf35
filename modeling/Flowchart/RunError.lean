import Flowchart.BuildError
import Flowchart.Handler
import Flowchart.VisitRules

/-!
# Why a run cannot go on

Errors of running instances name machines and states as their users know them.
-/

namespace Flowchart

inductive RunError where
  /-- A step was asked for in a terminal state. -/
  | terminalStep (machine state : String)
  | unknownState (machine state : String)
  | targetUnreachable (target halted : String)
  | stepCountPassed (requested current : Nat)
  /-- The run halted before it left the state that it was to pass. -/
  | unexpectedTerminal (expected halted : String)
  | unexpectedState (expected actual : String)
  | handlerFailed (state : String) (failure : Failure)
  | replayDiverged (step : Nat) (expected actual : String)
  | visitLimitExceeded (violation : Violation)
  | visitCountMismatch (violations : List Violation)
  /-- An instance that a pool does not take back. -/
  | notParked (machine state : String)
  | build (error : BuildError)
  deriving Repr

def RunError.message : RunError → String
  | terminalStep machine state =>
    "Machine " ++ machine ++ " is in terminal state " ++ state ++ " and cannot step"
  | unknownState machine state =>
    "Machine " ++ machine ++ " has no state named '" ++ state ++ "'"
  | targetUnreachable target halted =>
    "Halted in terminal state " ++ halted ++ " before reaching " ++ target
  | stepCountPassed requested current =>
    "Requested step count " ++ toString requested ++ " but already at step " ++
      toString current
  | unexpectedTerminal expected halted =>
    "Reached terminal state " ++ halted ++ " before passing " ++ expected
  | unexpectedState expected actual =>
    "Expected to be in state " ++ expected ++ ", but current state is " ++ actual
  | handlerFailed state failure =>
    "Handler for state " ++ state ++ " failed: " ++ failure.message
  | replayDiverged step expected actual =>
    "Replay diverged at step " ++ toString step ++ ": expected " ++ expected ++
      ", got " ++ actual
  | visitLimitExceeded violation => violation.message
  | visitCountMismatch violations =>
    "Visit counts did not match: " ++ "; ".intercalate (violations.map Violation.message)
  | notParked machine state =>
    "Instance of " ++ machine ++ " is in state " ++ state ++
      "; only terminal instances can be parked"
  | build error => error.message

end Flowchart

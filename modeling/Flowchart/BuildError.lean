import Flowchart.Code
import Flowchart.Kind
import Flowchart.Text.Quoted

/-!
# Faults of a blueprint

Each fault says what is wrong with a blueprint, and names the states and handlers
concerned.  Faults found together are reported together.
-/

namespace Flowchart

inductive BuildError where
  | noStates
  /-- The name has no capital letter to form an acronym from. -/
  | noAcronym (name : String)
  | duplicateState (name : String)
  | acronymCollision (acronym first second : String)
  | unknownTarget (state code token : String)
  | malformedCode (state code : String) (reason : CodeError)
  | missingHandler (state handler : String) (kind : Kind)
  | terminalHandler (state handler : String)
  | kindMismatch (state : String) (expected found : Kind)
  | terminalName (state : String) (suffixes : List String)
  | orphanHandler (handler : String)
  | handlerClash (handler first second : String)
  | duplicateHandler (handler : String)
  | unknownStart (state : String)
  | multiple (problems : List BuildError)
  deriving Repr

namespace BuildError

/-- One error for a list of problems.  A single problem stands for itself. -/
def ofList : List BuildError → BuildError
  | [problem] => problem
  | problems => multiple problems

mutual

/-- The problems that an error is made of, however they are grouped. -/
def problems : BuildError → List BuildError
  | .multiple errors => problemsOfAll errors
  | error => [error]

/-- The problems of all errors of a list, in order. -/
def problemsOfAll : List BuildError → List BuildError
  | [] => []
  | error :: rest => problems error ++ problemsOfAll rest

end

mutual

/-- The text of an error.  A group has one line for each of its members. -/
def message : BuildError → String
  | .noStates => "Machine declares no states. Call .state(name, code) before .build()"
  | .noAcronym name =>
    "Invalid state name '" ++ name ++
      "': name has no uppercase characters to form an acronym"
  | .duplicateState name => "State '" ++ name ++ "' is declared more than once"
  | .acronymCollision acronym first second =>
    "Acronym '" ++ acronym ++ "' is shared by states '" ++ first ++ "' and '" ++
      second ++ "'"
  | .unknownTarget state code token =>
    "State '" ++ state ++ "' has code '" ++ code ++ "' referencing unknown state '" ++
      token ++ "'"
  | .malformedCode state code reason =>
    "State '" ++ state ++ "' has malformed code '" ++ code ++ "': " ++ reason.message
  | .missingHandler state handler kind =>
    "No handler named '" ++ handler ++ "' for " ++ kind.name ++ " state '" ++ state ++ "'"
  | .terminalHandler state handler =>
    "Terminal state '" ++ state ++ "' must not have a handler, found '" ++ handler ++ "'"
  | .kindMismatch state expected found =>
    "Handler for state '" ++ state ++ "' is a " ++ found.name ++ " handler, not a " ++
      expected.name ++ " handler"
  | .terminalName state suffixes =>
    "Terminal state '" ++ state ++ "' must end with one of " ++
      Text.bracketed (suffixes.map Text.quoted)
  | .orphanHandler handler =>
    "Handler '" ++ handler ++ "' does not match any declared state"
  | .handlerClash handler first second =>
    "States '" ++ first ++ "' and '" ++ second ++ "' both bind to handler '" ++
      handler ++ "'"
  | .duplicateHandler handler => "Handler '" ++ handler ++ "' is registered more than once"
  | .unknownStart state => "Unknown start state '" ++ state ++ "'"
  | .multiple errors =>
    toString errors.length ++ " problems found:\n" ++ "\n".intercalate (messages errors)

/-- The lines of a group, one for each of its members. -/
def messages : List BuildError → List String
  | [] => []
  | error :: rest => ("  - " ++ message error) :: messages rest

end

end BuildError
end Flowchart

import Flowchart.Blueprint
import Flowchart.Entries

/-!
# Binding handlers to states

A state is served by the handler that is registered under its handler name.  The
registrations are entered under their names first, and of several under one name the
first counts.  The states then claim their handlers in order, and what they leave
belongs to no state.

Everything that is wrong is listed, in this order:

* names that are registered again, in the order of registration;
* state by state, a state whose handler name an earlier state has claimed, or else what
  is wrong with its own handler and its name;
* registered names that no state has claimed, in alphabetical order.
-/

namespace Flowchart
namespace Binding

variable {ω D : Type}

/-- Enters registrations into those that are pending, and reports the names that are
there already. -/
def register (pending : List (String × Handler ω D)) :
    List (String × Handler ω D) → List BuildError × List (String × Handler ω D)
  | [] => ([], pending)
  | (name, handler) :: rest =>
    if (pending.lookup name).isSome then
      let (errors, pending) := register pending rest
      (.duplicateHandler name :: errors, pending)
    else register (Entries.insert name handler pending) rest

/-- What is wrong with the handler of a state and with its name, where no earlier state
has the same handler name. -/
def ownProblems (settings : Settings) (name : String) (row : Row)
    (handler : Option (Handler ω D)) : List BuildError :=
  match row.kind, handler with
  | .terminal, handler =>
    (if handler.isSome then [.terminalHandler name (handlerName name)] else []) ++
      if settings.isTerminalName name then []
      else [.terminalName name settings.terminalSuffixes]
  | kind, none => [.missingHandler name (handlerName name) kind]
  | kind, some h => if h.kind = kind then [] else [.kindMismatch name kind h.kind]

/-- The handler that stands at a state; a terminal state has none. -/
def slot (row : Row) (handler : Option (Handler ω D)) : Option (Handler ω D) :=
  if row.kind.isTerminal then none else handler

/-- What comes of binding. -/
structure Pass (ω D : Type) where
  /-- What is wrong, in the order in which it is found. -/
  problems : List BuildError
  /-- The handlers of the states in order. -/
  slots : List (Option (Handler ω D))
  /-- The registrations that no state has claimed. -/
  pending : List (String × Handler ω D)

/-- Lets states claim their handlers among those that are pending.  The handler names
that earlier states have claimed stand with the names of these states. -/
def claim (settings : Settings) (claimed : List (String × String))
    (pending : List (String × Handler ω D)) : List (String × Row) → Pass ω D
  | [] => ⟨[], [], pending⟩
  | (name, row) :: rest =>
    match claimed.lookup (handlerName name) with
    | some first =>
      let later := claim settings claimed pending rest
      { later with
        problems := .handlerClash (handlerName name) first name :: later.problems
        slots := none :: later.slots }
    | none =>
      let handler := pending.lookup (handlerName name)
      let later := claim settings ((handlerName name, name) :: claimed)
        (pending.filter fun r => r.1 ≠ handlerName name) rest
      { later with
        problems := ownProblems settings name row handler ++ later.problems
        slots := slot row handler :: later.slots }

/-- Registers the handlers, lets a list of states with their rows claim them, and
reports what is left. -/
def pass (settings : Settings) (handlers : List (String × Handler ω D))
    (states : List (String × Row)) : Pass ω D :=
  let (again, pending) := register [] handlers
  let claims := claim settings [] pending states
  { claims with
    problems :=
      again ++ claims.problems ++ claims.pending.map fun r => .orphanHandler r.1 }

/-- The handlers of a list of states with their rows, if nothing is wrong. -/
def bindHandlers (settings : Settings) (handlers : List (String × Handler ω D))
    (states : List (String × Row)) : Except BuildError (List (Option (Handler ω D))) :=
  let pass := pass settings handlers states
  match pass.problems with
  | [] => .ok pass.slots
  | problems => .error (.ofList problems)

end Binding
end Flowchart

import Flowchart.Blueprint.Binding
import Flowchart.Code.Compile

/-!
# Building machines

A blueprint is checked in phases, and a phase is reached only when the ones before
found nothing wrong: there are states; their names form a directory; every code
compiles; the start can be found; the handlers fit.  The third and the last phase
report everything that they find at once.
-/

namespace Flowchart
namespace Blueprint

variable {ω D : Type}

/-- The rows, if every code compiles; otherwise all faults of codes. -/
def gather (compiled : List (Except BuildError Row)) : Except BuildError (List Row) :=
  match compiled.filterMap fun
      | .error e => some e
      | .ok _ => none with
  | [] => .ok (compiled.filterMap Except.toOption)
  | errors => .error (.ofList errors)

/-- The rows of all states in order. -/
def rows (b : Blueprint ω D) (directory : Directory) : Except BuildError (List Row) :=
  gather <| b.declarations.mapIdx fun position d =>
    Code.compile directory b.declarations.length position d.name d.code

/-- The state to begin in. -/
def startId (b : Blueprint ω D) (directory : Directory) : Except BuildError StateId :=
  match b.start with
  | none => .ok 0
  | some token =>
    match directory.resolve? token with
    | some id => .ok id
    | none => .error (.unknownStart token)

/-- The states with their rows and handlers, numbered in order. -/
def states (b : Blueprint ω D) (rows : List Row) (handlers : List (Option (Handler ω D))) :
    List (State ω D) :=
  (b.declarations.zip (rows.zip handlers)).mapIdx fun index (d, row, handler) =>
    { name := d.name, index, code := d.code, row, handler }

def build (b : Blueprint ω D) : Except BuildError (Machine ω D) :=
  if b.declarations.isEmpty then .error .noStates
  else do
    let names := b.declarations.map Declaration.name
    let directory ← Directory.ofNames names
    let rows ← b.rows directory
    let start ← b.startId directory
    let handlers ← Binding.bindHandlers b.settings b.handlers (names.zip rows)
    return {
      name := b.name
      states := b.states rows handlers
      directory
      start
      settings := b.settings
      hooks := b.hooks }

end Blueprint
end Flowchart

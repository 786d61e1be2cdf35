import Flowchart.Directory
import Flowchart.Handler
import Flowchart.Row
import Flowchart.Settings
import Flowchart.Time.Timestamp

/-!
# Machines

A machine is a compiled description that any number of instances share: its states
with their rows and handlers, the directory that finds them, and the settings.  States
are numbered in the order of their declaration.

A number that is not that of a state has no name and no row, and counts as terminal.
-/

namespace Flowchart

/-- A state of a machine.  A terminal state has no handler. -/
structure State (ω D : Type) where
  name : String
  /-- The position of the state in the order of declaration. -/
  index : Nat
  code : String
  row : Row
  handler : Option (Handler ω D)

/-- What the owner of the data adds to a machine: a description of the data, a way to
take input from outside, and a reading of the time. -/
structure Hooks (ω D : Type) where
  /-- Lines that describe the data. -/
  diagnostics : D → List String :=
    fun _ => ["No diagnostic info available, override Machine::diagnostics"]
  /-- Takes a text while the instance stands in the named state. -/
  inject : (state input : String) → ω → D → ω × D × Except Failure Unit :=
    fun state input w d =>
      (w, d, .error ⟨"state " ++ state ++ " does not accept input '" ++ input ++
        "'; override Machine::inject"⟩)
  /-- The time that the surroundings show. -/
  clock : ω → Timestamp :=
    fun _ => .epoch

structure Machine (ω D : Type) where
  name : String
  states : List (State ω D)
  directory : Directory
  /-- Where instances begin. -/
  start : StateId
  settings : Settings
  hooks : Hooks ω D

namespace Machine

variable {ω D : Type}

def stateNames (m : Machine ω D) : List String :=
  m.states.map State.name

/-- The transition table. -/
def table (m : Machine ω D) : List Row :=
  m.states.map State.row

/-- Finds a state by its acronym or its name, with any blanks around. -/
def idOf? (m : Machine ω D) (text : String) : Option StateId :=
  m.directory.resolve? (trimmed text)

def nameOf? (m : Machine ω D) (id : StateId) : Option String :=
  m.states[id]?.map State.name

/-- The name of a state, or its number if it has no name. -/
def label (m : Machine ω D) (id : StateId) : String :=
  (m.nameOf? id).getD (StateId.tag id)

def row? (m : Machine ω D) (id : StateId) : Option Row :=
  m.states[id]?.map State.row

def kind? (m : Machine ω D) (id : StateId) : Option Kind :=
  (m.row? id).map Row.kind

def kindOf? (m : Machine ω D) (text : String) : Option Kind :=
  (m.idOf? text).bind m.kind?

/-- The names of the targets of a state, in order. -/
def targetsOf? (m : Machine ω D) (text : String) : Option (List String) := do
  let id ← m.idOf? text
  let row ← m.row? id
  return row.targets.filterMap m.nameOf?

def isTerminal (m : Machine ω D) (id : StateId) : Bool :=
  (m.kind? id).all Kind.isTerminal

def handler? (m : Machine ω D) (id : StateId) : Option (Handler ω D) :=
  m.states[id]?.bind State.handler

end Machine
end Flowchart

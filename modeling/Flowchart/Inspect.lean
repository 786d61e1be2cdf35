import Flowchart.Instance

/-!
# Structured descriptions

One-line descriptions of machines and instances that show their fields by name.
Handlers are not shown.
-/

namespace Flowchart
namespace Inspect

/-- A record with the given fields, whose values are already written. -/
def record (name : String) (fields : List (String × String)) : String :=
  name ++ " \x7b " ++ ", ".intercalate (fields.map fun f => f.1 ++ ": " ++ f.2) ++ " \x7d"

def stateId (id : StateId) : String :=
  "StateId(" ++ toString id ++ ")"

def row : Row → String
  | .terminal => "Terminal"
  | .action next => "Action(" ++ stateId next ++ ")"
  | .decision onTrue onFalse =>
    record "Decision" [("on_true", stateId onTrue), ("on_false", stateId onFalse)]

def shape : Shape → String
  | .box => "Box"
  | .diamond => "Diamond"
  | .ellipse => "Ellipse"

def policy : TerminalPolicy → String
  | .reject => "Reject"
  | .ignore => "Ignore"

def settings (s : Settings) : String :=
  record "EngineConfig"
    [("terminal_suffixes", Text.bracketed (s.terminalSuffixes.map Text.quoted)),
     ("terminal_step", policy s.terminalStep),
     ("record_transitions", if s.recordTransitions then "true" else "false"),
     ("graph", record "GraphStyle"
       [("font_size", toString s.style.fontSize),
        ("default_shape", shape s.style.defaultShape)])]

variable {ω D : Type}

def state (s : State ω D) : String :=
  record "StateDescriptor"
    [("name", Text.quoted s.name), ("index", toString s.index),
     ("code", Text.quoted s.code)]

def machine (m : Machine ω D) : String :=
  record "MachineType"
    [("name", Text.quoted m.name),
     ("states", Text.bracketed (m.states.map state)),
     ("table", record "TransitionTable" [("rows", Text.bracketed (m.table.map row))]),
     ("start", stateId m.start),
     ("config", settings m.settings)]

/-- The description of an instance, with the given texts for its run and its data. -/
def runOf (m : Machine ω D) (run data : String) (i : Instance ω D) : String :=
  record "MachineInstance"
    [("machine", Text.quoted m.name),
     ("state", Text.quoted ((m.nameOf? i.current).getD "")),
     ("step_count", toString i.steps),
     ("run_id", run),
     ("data", data)]

end Inspect
end Flowchart

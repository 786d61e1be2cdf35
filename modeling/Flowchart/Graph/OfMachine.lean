import Flowchart.Graph
import Flowchart.Machine

/-!
# The diagram of a machine

Actions are boxes, decisions ellipses and terminal states diamonds.  The edges of a
decision are labelled with its outcomes.
-/

namespace Flowchart

def Kind.shape : Kind → Shape
  | .terminal => .diamond
  | .decision => .ellipse
  | .action => .box

namespace Machine

variable {ω D : Type}

/-- Adds the edges of one state. -/
def addEdges (m : Machine ω D) (g : Graph) (s : State ω D) : Graph :=
  match s.row with
  | .terminal => g
  | .action next => g.addEdge s.name (m.label next) none
  | .decision onTrue onFalse =>
    (g.addEdge s.name (m.label onTrue) (some (Code.label true))).addEdge
      s.name (m.label onFalse) (some (Code.label false))

def toGraph (m : Machine ω D) : Graph :=
  let frame : Graph :=
    { name := m.name
      label := "AutoGen for StateMachine " ++ m.name
      defaultShape := m.settings.style.defaultShape
      fontSize := m.settings.style.fontSize }
  let withNodes :=
    m.states.foldl (fun g s => g.addNode s.name (some s.row.kind.shape)) frame
  m.states.foldl m.addEdges withNodes

end Machine
end Flowchart

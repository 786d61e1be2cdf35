import Flowchart.Settings

/-!
# Directed graphs in the DOT language

A graph has nodes, each with a shape of its own or the default one, and edges with or
without a label.  Its DOT text has one statement a line: the nodes grouped by the shape
that they are drawn with, then the edges in order, then the properties of the graph.

An identifier made of ASCII letters, digits and underscores that does not start with a
digit stands bare.  Any other is put in double quotes, with a backslash before each
quote and backslash.
-/

namespace Flowchart

namespace Graph

structure Node where
  name : String
  /-- The shape of its own, if the node has one. -/
  shape : Option Shape
  deriving DecidableEq, Repr

structure Edge where
  source : String
  target : String
  label : Option String
  deriving DecidableEq, Repr

end Graph

structure Graph where
  name : String
  label : String := ""
  defaultShape : Shape := .box
  fontSize : Nat := 12
  nodes : List Graph.Node := []
  edges : List Graph.Edge := []
  deriving DecidableEq, Repr

namespace Graph

/-- Gives the node of this name a shape. -/
def setShape (name : String) (shape : Option Shape) : List Node → List Node
  | [] => []
  | node :: rest =>
    if node.name = name then { node with shape } :: rest
    else node :: setShape name shape rest

/-- Adds a node.  A name that is already there only gets the new shape. -/
def addNode (g : Graph) (name : String) (shape : Option Shape) : Graph :=
  if g.nodes.any fun node => node.name = name then
    { g with nodes := setShape name shape g.nodes }
  else { g with nodes := g.nodes ++ [⟨name, shape⟩] }

def addEdge (g : Graph) (source target : String) (label : Option String) : Graph :=
  { g with edges := g.edges ++ [⟨source, target, label⟩] }

/-- The shape that a node is drawn with. -/
def shapeOf (g : Graph) (node : Node) : Shape :=
  node.shape.getD g.defaultShape

/-! ### DOT text -/

/-- Text as it stands between double quotes. -/
def escape (text : List Char) : List Char :=
  text.flatMap fun c => if c = '\\' ∨ c = '"' then ['\\', c] else [c]

/-- Whether a character may stand in a bare identifier. -/
def isWordChar (c : Char) : Bool :=
  c.isAlphanum || c = '_'

/-- Whether an identifier stands bare. -/
def isBare : List Char → Bool
  | [] => false
  | first :: rest => (first.isAlpha || first = '_') && rest.all isWordChar

/-- Text in double quotes. -/
def quote (text : String) : String :=
  String.ofList ('"' :: escape text.toList ++ ['"'])

def identifier (name : String) : String :=
  if isBare name.toList then name else quote name

/-- The statement of the nodes that are drawn with a shape, if there are any. -/
def groupLine? (g : Graph) (shape : Shape) : Option String :=
  match g.nodes.filter fun node => g.shapeOf node = shape with
  | [] => none
  | members =>
    some ("node [shape=" ++ shape.name ++ "] " ++
      "; ".intercalate (members.map fun node => identifier node.name))

def edgeLine (e : Edge) : String :=
  let ends := identifier e.source ++ "->" ++ identifier e.target
  match e.label with
  | some label => ends ++ " [label=" ++ quote label ++ "];"
  | none => ends ++ ";"

/-- The statements of the DOT text. -/
def lines (g : Graph) : List String :=
  ["digraph " ++ identifier g.name ++ " \x7b "] ++
    [Shape.box, .diamond, .ellipse].filterMap g.groupLine? ++
    g.edges.map edgeLine ++
    ["overlap=false", "label=" ++ quote g.label, "fontsize=" ++ toString g.fontSize,
      "\x7d"]

def text (g : Graph) : String :=
  String.join (g.lines.map (· ++ "\n"))

end Graph
end Flowchart

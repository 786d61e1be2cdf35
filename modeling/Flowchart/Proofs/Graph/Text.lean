import Flowchart.Graph.OfMachine
import Flowchart.Proofs.Build
import Flowchart.Proofs.Graph.Tokens

/-!
# The text of a graph, read as DOT

Every line of the text of a graph is one statement, and the text has the tokens of its
lines one after the other: no name, whatever characters it has, runs into what stands
around it.  Where the graph names itself, a node or an end of an edge, there is one token.
It is an identifier that denotes the name, unless the name is a keyword.  Those stand bare
like other words, so a state may have a name that its diagram cannot show.
-/

namespace Flowchart
namespace Graph

open Dot

/-- The names of the nodes that have a shape.  A node without one of its own has the
default. -/
def drawn (g : Graph) (shape : Shape) : List String :=
  (g.nodes.filter fun node => node.shape.getD g.defaultShape = shape).map Node.name

/-- The names that the text of a graph shows. -/
def mentioned (g : Graph) : List String :=
  g.name :: g.nodes.map Node.name ++ g.edges.flatMap fun e => [e.source, e.target]

/-! ### Statements -/

def openingTokens (name : String) : List Token :=
  [.word "digraph", nameToken name, .sign '\x7b']

/-- What the declaration of nodes of a shape begins with. -/
def shapeTokens (shape : Shape) : List Token :=
  [.word "node", .sign '[', .word "shape", .sign '=', .word shape.name, .sign ']']

/-- The declaration of some nodes. -/
def groupTokens (shape : Shape) (names : List String) : List Token :=
  shapeTokens shape ++
    [Token.sign ';'].intercalate (names.map fun name => [nameToken name])

def groupTokens? (g : Graph) (shape : Shape) : Option (List Token) :=
  match g.drawn shape with
  | [] => none
  | names => some (groupTokens shape names)

def labelTokens : Option String → List Token
  | some label => [.sign '[', .word "label", .sign '=', .quoted label, .sign ']']
  | none => []

def edgeTokens (e : Edge) : List Token :=
  [nameToken e.source, .arrow, nameToken e.target] ++ labelTokens e.label ++ [.sign ';']

/-- The properties of the graph, and its end. -/
def closingStatements (g : Graph) : List (List Token) :=
  [[.word "overlap", .sign '=', .word "false"],
   [.word "label", .sign '=', .quoted g.label],
   [.word "fontsize", .sign '=', .numeral g.fontSize],
   [.sign '\x7d']]

/-- The statements of a graph in the order of its lines. -/
def statements (g : Graph) : List (List Token) :=
  [openingTokens g.name] ++
    [Shape.box, .diamond, .ellipse].filterMap g.groupTokens? ++
    g.edges.map edgeTokens ++
    g.closingStatements

/-! ### Lines -/

/-- The line has these tokens. -/
def LineScans (line : String) (tokens : List Token) : Prop :=
  scanning.Scans line.toList tokens

/-- A text stands apart if its first character goes on with no word. -/
theorem apart_cons
    {c : Char}
    {rest : List Char}
    (hletter : isLetter c = false)
    (hdigit : c.isDigit = false) :
    scanning.Apart (c :: rest) :=
  ⟨c, rest, rfl, hletter, hdigit⟩

theorem scans_opening
    (name : String) :
    LineScans ("digraph " ++ identifier name ++ " \x7b ") (openingTokens name) := by
  have hword : scanning.Passes "digraph ".toList [.word "digraph"] := fun _ => rfl
  have hbrace : scanning.Passes " \x7b ".toList [.sign '\x7b'] := fun _ => rfl
  have hname := hword.append_scans (scans_identifier name)
  have hapart : scanning.Apart " \x7b ".toList := apart_cons rfl rfl
  have hline := hname.append_passes hapart hbrace
  rw [LineScans, String.toList_append, String.toList_append]
  exact hline.scans

/-- Names with semicolons between them are as many tokens. -/
theorem scans_names
    {names : List String}
    (hne : names ≠ []) :
    LineScans ("; ".intercalate (names.map identifier))
      ([Token.sign ';'].intercalate (names.map fun name => [nameToken name])) := by
  have hsemicolon : scanning.Passes "; ".toList [.sign ';'] := fun _ => rfl
  have hapart : scanning.Apart "; ".toList := apart_cons rfl rfl
  have hnames : List.Forall₂ scanning.Scans
      ((names.map identifier).map String.toList)
      (names.map fun name => [nameToken name]) := by
    rw [List.map_map, List.forall₂_map_left_iff, List.forall₂_map_right_iff,
      List.forall₂_same]
    exact fun name _ => scans_identifier name
  rw [LineScans, String.toList_intercalate]
  exact Scanning.Scans.intercalate hapart hsemicolon hnames (by simpa using hne)

theorem scans_group
    (shape : Shape)
    {names : List String}
    (hne : names ≠ []) :
    LineScans ("node [shape=" ++ shape.name ++ "] " ++
      "; ".intercalate (names.map identifier))
      (groupTokens shape names) := by
  have hshape : scanning.Passes ("node [shape=" ++ shape.name ++ "] ").toList
      (shapeTokens shape) := by
    cases shape <;> exact fun _ => rfl
  have hline := hshape.append_scans (scans_names hne)
  rwa [← String.toList_append] at hline

/-- The nodes of a shape have a line exactly if there are any. -/
theorem groupLine?_eq
    (g : Graph)
    (shape : Shape) :
    g.groupLine? shape =
      if g.drawn shape = [] then none
      else some ("node [shape=" ++ shape.name ++ "] " ++
        "; ".intercalate ((g.drawn shape).map identifier)) := by
  unfold groupLine? drawn shapeOf
  cases g.nodes.filter fun node => node.shape.getD g.defaultShape = shape <;>
    simp [Function.comp_def]

theorem groupTokens?_eq
    (g : Graph)
    (shape : Shape) :
    g.groupTokens? shape =
      if g.drawn shape = [] then none else some (groupTokens shape (g.drawn shape)) := by
  unfold groupTokens?
  cases g.drawn shape <;> simp

theorem rel_group
    (g : Graph)
    (shape : Shape) :
    Option.Rel LineScans (g.groupLine? shape) (g.groupTokens? shape) := by
  rw [groupLine?_eq, groupTokens?_eq]
  split_ifs with hempty
  · exact .none
  · exact .some (scans_group shape hempty)

theorem scans_edge
    (e : Edge) :
    LineScans (edgeLine e) (edgeTokens e) := by
  have harrow : scanning.Passes "->".toList [.arrow] := fun _ => rfl
  have hapart : scanning.Apart "->".toList := apart_cons rfl rfl
  have hends := (scans_identifier e.source).append (hapart.append _)
    (harrow.append_scans (scans_identifier e.target))
  unfold LineScans edgeLine edgeTokens
  cases e.label with
  | none =>
      have hend : scanning.Passes ";".toList [.sign ';'] := fun _ => rfl
      have hapart : scanning.Apart ";".toList := apart_cons rfl rfl
      have hline := hends.append_passes hapart hend
      simpa [labelTokens] using hline.scans
  | some label =>
      have hopen : scanning.Passes " [label=".toList
          [.sign '[', .word "label", .sign '='] :=
        fun _ => rfl
      have hend : scanning.Passes "];".toList [.sign ']', .sign ';'] := fun _ => rfl
      have hapart : scanning.Apart " [label=".toList := apart_cons rfl rfl
      have hlabel := hopen.append ((Scanner.passes_quote label).append hend)
      have hline := hends.append_passes (hapart.append _) hlabel
      simpa [labelTokens] using hline.scans

theorem scans_closing
    (g : Graph) :
    List.Forall₂ LineScans
      ["overlap=false", "label=" ++ quote g.label, "fontsize=" ++ toString g.fontSize,
        "\x7d"]
      g.closingStatements := by
  have hoverlap : scanning.Passes "overlap=".toList [.word "overlap", .sign '='] :=
      fun _ => rfl
  have hfalse : scanning.Scans "false".toList [.word "false"] := scans_bare rfl
  have hlabel : scanning.Passes "label=".toList [.word "label", .sign '='] := fun _ => rfl
  have hsize : scanning.Passes "fontsize=".toList [.word "fontsize", .sign '='] :=
      fun _ => rfl
  have hend : scanning.Passes "\x7d".toList [.sign '\x7d'] := fun _ => rfl
  refine .cons (hoverlap.append_scans hfalse) (.cons ?_ (.cons ?_ (.cons hend.scans .nil)))
  · rw [LineScans, String.toList_append]
    exact (hlabel.append (Scanner.passes_quote g.label)).scans
  · rw [LineScans, String.toList_append]
    exact hsize.append_scans (Scanner.scans_toString g.fontSize)

/-- Every line has the tokens of its statement. -/
theorem forall₂_lines
    (g : Graph) :
    List.Forall₂ LineScans g.lines g.statements := by
  have hopening : List.Forall₂ LineScans
      ["digraph " ++ identifier g.name ++ " \x7b "] [openingTokens g.name] :=
    .cons (scans_opening g.name) .nil
  have hgroups : List.Forall₂ LineScans
      ([Shape.box, .diamond, .ellipse].filterMap g.groupLine?)
      ([Shape.box, .diamond, .ellipse].filterMap g.groupTokens?) :=
    List.rel_filterMap (R := Eq) (fun _ _ h => h ▸ g.rel_group _) (List.forall₂_refl _)
  have hedges : List.Forall₂ LineScans (g.edges.map edgeLine)
      (g.edges.map edgeTokens) := by
    rw [List.forall₂_map_left_iff, List.forall₂_map_right_iff, List.forall₂_same]
    exact fun e _ => scans_edge e
  exact List.rel_append (List.rel_append (List.rel_append hopening hgroups) hedges)
    g.scans_closing

/-- Lines that end with line breaks have their tokens one after the other. -/
theorem passes_join
    {lines : List String}
    {statements : List (List Token)}
    (h : List.Forall₂ LineScans lines statements) :
    scanning.Passes (String.join (lines.map (· ++ "\n"))).toList statements.flatten := by
  rw [String.toList_join]
  induction h with
  | nil =>
      exact fun _ => rfl
  | cons hline _ ih =>
      have hbreak : scanning.Passes "\n".toList [] := fun _ => rfl
      have hapart : scanning.Apart "\n".toList := apart_cons rfl rfl
      have hfirst := hline.append_passes hapart hbreak
      have hall := hfirst.append ih
      simpa using hall

/-- The text of a graph has the tokens of its statements. -/
theorem tokens?_text
    (g : Graph) :
    tokens? g.text = some g.statements.flatten :=
  tokens?_eq (passes_join g.forall₂_lines).scans

theorem tokens?_lines
    (g : Graph) :
    g.lines.map tokens? = g.statements.map some := by
  rw [← List.forall₂_eq_eq_eq, List.forall₂_map_left_iff, List.forall₂_map_right_iff]
  exact g.forall₂_lines.imp fun _ _ h => tokens?_eq h

/-! ### Names -/

/-- The text of a graph can be read, and its names are read from it unless they are
keywords. -/
structure Legible (g : Graph) : Prop where
  lines_eq : g.lines.map tokens? = g.statements.map some
  text_eq : tokens? g.text = some g.statements.flatten
  names_eq : ∀ name ∈ g.mentioned,
    tokens? (identifier name) = some [nameToken name] ∧
      (nameToken name).denotes? = if isKeyword name then none else some name

/-- What is written of a graph are the tokens of its statements.  Each name is an
identifier that denotes it, or a keyword. -/
theorem legible
    (g : Graph) :
    g.Legible where
  lines_eq := g.tokens?_lines
  text_eq := g.tokens?_text
  names_eq := fun name _ =>
    ⟨tokens?_eq (scans_identifier name), denotes?_nameToken name⟩

end Graph

namespace Blueprint

/-- A machine with a state that is called like a keyword. -/
def keyworded : Blueprint Unit Unit where
  name := "Scripted"
  declarations := [⟨"Node", ""⟩, ⟨"Done", "0"⟩]
  handlers := [("node", .action fun w d => (w, d, .ok ()))]

def keywordedMachine : Machine Unit Unit :=
  keyworded.assemble [.action 1, .terminal] 0

theorem build_keyworded :
    keyworded.build = .ok keywordedMachine :=
  build_eq_assemble (by simp [keyworded]) (by decide +kernel) (by decide +kernel)
    (by decide +kernel) rfl (List.isEmpty_iff.1 (by decide +kernel))

end Blueprint

namespace Graph

/-- The diagram of a machine shows a state by a word that is no identifier. -/
theorem keyword_stands_bare :
    ∃ m, Blueprint.keyworded.build = .ok m ∧
      "Node" ∈ m.toGraph.mentioned ∧
      m.toGraph.lines[1]? = some "node [shape=box] Node" ∧
      m.toGraph.lines[3]? = some "Node->Done;" ∧
      Dot.tokens? (identifier "Node") = some [.word "Node"] ∧
      (Dot.Token.word "Node").denotes? = none := by
  refine ⟨_, Blueprint.build_keyworded, ?_, ?_, ?_, ?_, ?_⟩ <;> decide +kernel

end Graph
end Flowchart

import Flowchart.Graph.OfMachine
import Flowchart.Proofs.Build

/-!
# What the diagram of a machine tells

The states of a built machine have different names, so each becomes a node of its own, in
the order of declaration.  Each state then adds its own edges behind those that are there.

Nothing of the names or the table is lost.  The edges of a state are those that begin at
its name, and their number says what kind of row they stand for.  A target is the one
state that has its name.
-/

namespace Flowchart

namespace Graph

/-- A name that is new is added behind the others. -/
theorem addNode_of_not_mem
    {g : Graph}
    {name : String}
    (hfresh : name ∉ g.nodes.map Node.name)
    (shape : Option Shape) :
    g.addNode name shape = { g with nodes := g.nodes ++ [⟨name, shape⟩] } := by
  refine if_neg ?_
  simpa using hfresh

/-! ### Reading a diagram -/

/-- The row that the edges from one node stand for. -/
def row? (names : List String) : List Edge → Option Row
  | [] => some .terminal
  | [e] => do
    let next ← names.idxOf? e.target
    return .action next
  | [e, e'] => do
    let onTrue ← names.idxOf? e.target
    let onFalse ← names.idxOf? e'.target
    return .decision onTrue onFalse
  | _ => none

/-- The names of the nodes, and the row of each from its edges. -/
def read? (nodes : List Node) (edges : List Edge) : Option (List String × List Row) := do
  let names := nodes.map Node.name
  let rows ← names.mapM fun name => row? names (edges.filter fun e => e.source = name)
  return (names, rows)

end Graph

namespace Machine

variable {ω D : Type} {m : Machine ω D}

/-! ### Nodes and edges -/

/-- The node of one state: terminal states are diamonds, actions boxes and decisions
ellipses. -/
def node (s : State ω D) : Graph.Node :=
  match s.row with
  | .terminal => ⟨s.name, some .diamond⟩
  | .action _ => ⟨s.name, some .box⟩
  | .decision _ _ => ⟨s.name, some .ellipse⟩

/-- The edges of one state. -/
def arrows (m : Machine ω D) (s : State ω D) : List Graph.Edge :=
  match s.row with
  | .terminal => []
  | .action next => [⟨s.name, m.label next, none⟩]
  | .decision onTrue onFalse =>
    [⟨s.name, m.label onTrue, some "T"⟩, ⟨s.name, m.label onFalse, some "F"⟩]

theorem node_eq
    (s : State ω D) :
    node s = ⟨s.name, some s.row.kind.shape⟩ := by
  unfold node
  cases s.row <;> rfl

/-- States with different names that are new to a graph add a node each. -/
theorem foldl_addNode
    {states : List (State ω D)}
    {g : Graph}
    (hnodup : (g.nodes.map Graph.Node.name ++ states.map State.name).Nodup) :
    states.foldl (fun g s => g.addNode s.name (some s.row.kind.shape)) g =
      { g with nodes := g.nodes ++ states.map node } := by
  induction states generalizing g with
  | nil => simp
  | cons s states ih =>
      have hfresh : s.name ∉ g.nodes.map Graph.Node.name := by
        intro hmem
        exact (List.nodup_append.1 hnodup).2.2 _ hmem _ (by simp) rfl
      rw [List.foldl_cons, Graph.addNode_of_not_mem hfresh, ih (by simpa using hnodup)]
      simp [node_eq]

theorem addEdges_eq
    (m : Machine ω D)
    (g : Graph)
    (s : State ω D) :
    m.addEdges g s = { g with edges := g.edges ++ m.arrows s } := by
  unfold addEdges arrows
  cases s.row <;> simp [Graph.addEdge, Code.label]

/-- Each state adds its edges behind those of the states before it. -/
theorem foldl_addEdges
    (m : Machine ω D)
    (states : List (State ω D))
    (g : Graph) :
    states.foldl m.addEdges g =
      { g with edges := g.edges ++ states.flatMap m.arrows } := by
  induction states generalizing g with
  | nil => simp
  | cons s states ih =>
      rw [List.foldl_cons, addEdges_eq, ih]
      simp

theorem nodes_toGraph
    (hnodup : m.stateNames.Nodup) :
    m.toGraph.nodes = m.states.map node := by
  rw [toGraph, foldl_addEdges, foldl_addNode (by simpa [stateNames] using hnodup)]
  simp

theorem edges_toGraph
    (hnodup : m.stateNames.Nodup) :
    m.toGraph.edges = m.states.flatMap m.arrows := by
  rw [toGraph, foldl_addEdges, foldl_addNode (by simpa [stateNames] using hnodup)]
  simp

/-! ### Reading the diagram of a machine -/

theorem source_of_mem_arrows
    {s : State ω D}
    {e : Graph.Edge}
    (he : e ∈ m.arrows s) :
    e.source = s.name := by
  unfold arrows at he
  split at he <;> simp at he
  · rw [he]
  · rcases he with rfl | rfl <;> rfl

theorem filter_arrows_self
    (m : Machine ω D)
    (s : State ω D) :
    (m.arrows s).filter (fun e => e.source = s.name) = m.arrows s :=
  List.filter_eq_self.2 fun _ he => decide_eq_true (source_of_mem_arrows he)

theorem filter_arrows_of_ne
    {s : State ω D}
    {name : String}
    (hne : s.name ≠ name) :
    (m.arrows s).filter (fun e => e.source = name) = [] :=
  List.filter_eq_nil_iff.2 fun _ he heq =>
    hne ((source_of_mem_arrows he).symm.trans (of_decide_eq_true heq))

/-- Among the edges of states with different names, those from one name are those of its
state. -/
theorem filter_flatMap_arrows
    {states : List (State ω D)}
    (hnodup : (states.map State.name).Nodup)
    {s : State ω D}
    (hs : s ∈ states) :
    (states.flatMap m.arrows).filter (fun e => e.source = s.name) = m.arrows s := by
  induction states with
  | nil => cases hs
  | cons first states ih =>
      obtain ⟨hfresh, hnodup⟩ := List.nodup_cons.1 hnodup
      have hother : ∀ s' ∈ states, s'.name ≠ first.name :=
        fun s' hs' heq => hfresh (heq ▸ List.mem_map_of_mem hs')
      rw [List.flatMap_cons, List.filter_append]
      rcases List.mem_cons.1 hs with rfl | hs
      · have hnone :
            (states.flatMap m.arrows).filter (fun e => e.source = s.name) = [] := by
          rw [List.filter_flatMap, List.flatMap_eq_nil_iff]
          exact fun s' hs' => filter_arrows_of_ne (hother s' hs')
        rw [filter_arrows_self, hnone, List.append_nil]
      · rw [filter_arrows_of_ne (hother s hs).symm, ih hnodup hs, List.nil_append]

/-- A declared state is found by its name. -/
theorem idxOf?_label
    (hnodup : m.stateNames.Nodup)
    {id : StateId}
    (hlt : id < m.states.length) :
    m.stateNames.idxOf? (m.label id) = some id := by
  have hname : m.stateNames[id]? = some (m.label id) := by
    rw [stateNames, List.getElem?_map]
    exact m.nameOf?_of_lt hlt
  obtain ⟨hid, hget⟩ := List.getElem?_eq_some_iff.1 hname
  refine List.idxOf?_eq_some_iff.2 ⟨hid, hget, fun j hj hsame => ?_⟩
  have := hnodup.getElem_inj_iff.1 (hsame.trans hget.symm)
  omega

/-- The edges of a state stand for its row. -/
theorem row?_arrows
    (hnodup : m.stateNames.Nodup)
    {s : State ω D}
    (htargets : ∀ target ∈ s.row.targets, target < m.states.length) :
    Graph.row? m.stateNames (m.arrows s) = some s.row := by
  unfold arrows
  cases hrow : s.row with
  | terminal => rfl
  | action next =>
      have hnext := idxOf?_label hnodup (htargets next (by simp [hrow, Row.targets]))
      simp [Graph.row?, hnext]
  | decision onTrue onFalse =>
      have htrue := idxOf?_label hnodup (htargets onTrue (by simp [hrow, Row.targets]))
      have hfalse := idxOf?_label hnodup (htargets onFalse (by simp [hrow, Row.targets]))
      simp [Graph.row?, htrue, hfalse]

theorem mapM_eq_some_map
    {α β : Type}
    {f : α → Option β}
    {g : α → β}
    {l : List α}
    (h : ∀ a ∈ l, f a = some (g a)) :
    l.mapM f = some (l.map g) := by
  induction l with
  | nil => rfl
  | cons a l ih =>
      rw [List.mapM_cons, h a (by simp), ih fun a ha => h a (.tail _ ha)]
      rfl

theorem read?_toGraph
    (hnodup : m.stateNames.Nodup)
    (hm : m.WellFormed) :
    Graph.read? m.toGraph.nodes m.toGraph.edges = some (m.stateNames, m.table) := by
  have hnames : (m.states.map node).map Graph.Node.name = m.stateNames := by
    simp [node_eq, stateNames, Function.comp_def]
  have hrow : ∀ s ∈ m.states,
      Graph.row? m.stateNames
        ((m.states.flatMap m.arrows).filter fun e => e.source = s.name) = some s.row := by
    intro s hs
    rw [filter_flatMap_arrows hnodup hs]
    exact row?_arrows hnodup (hm.target_lt s hs)
  have hrows := mapM_eq_some_map hrow
  rw [nodes_toGraph hnodup, edges_toGraph hnodup, Graph.read?, hnames]
  rw [stateNames, List.mapM_map, ← stateNames]
  simp only [Function.comp_def, hrows]
  rfl

/-- The diagram shows what was declared, and the names and the table are read from it. -/
structure Depicted (b : Blueprint ω D) (m : Machine ω D) : Prop where
  names_eq : m.toGraph.nodes.map Graph.Node.name = b.names
  nodes_eq : m.toGraph.nodes = m.states.map node
  edges_eq : m.toGraph.edges = m.states.flatMap m.arrows
  nameOf?_target : ∀ s ∈ m.states, ∀ target ∈ s.row.targets,
    m.nameOf? target = some (m.label target)
  read?_eq : Graph.read? m.toGraph.nodes m.toGraph.edges = some (m.stateNames, m.table)

end Machine

namespace Blueprint

variable {ω D : Type} {b : Blueprint ω D} {m : Machine ω D}

theorem nodup_stateNames_of_build
    (hbuild : b.build = .ok m) :
    m.stateNames.Nodup := by
  obtain ⟨-, -, hnodup, -⟩ := (build_eq_ok_iff b m).1 hbuild
  rw [stateNames_of_build hbuild]
  exact hnodup.of_map

/-- The diagram of a built machine shows all its states and transitions.  No other names
or table have the same diagram. -/
theorem depicted_of_build
    (hbuild : b.build = .ok m) :
    m.Depicted b ∧
      ∀ (ω' D' : Type) (b' : Blueprint ω' D') (m' : Machine ω' D'), b'.build = .ok m' →
        m.toGraph.nodes = m'.toGraph.nodes → m.toGraph.edges = m'.toGraph.edges →
        m.stateNames = m'.stateNames ∧ m.table = m'.table := by
  have hnodup := nodup_stateNames_of_build hbuild
  have hm := wellFormed_of_build hbuild
  have hread := Machine.read?_toGraph hnodup hm
  constructor
  · exact
      { names_eq := by
          rw [Machine.nodes_toGraph hnodup, ← stateNames_of_build hbuild]
          simp [Machine.node_eq, Machine.stateNames]
        nodes_eq := Machine.nodes_toGraph hnodup
        edges_eq := Machine.edges_toGraph hnodup
        nameOf?_target := fun s hs target htarget =>
          m.nameOf?_of_lt (hm.target_lt s hs target htarget)
        read?_eq := hread }
  · intro ω' D' b' m' hbuild' hnodes hedges
    have hread' := Machine.read?_toGraph (nodup_stateNames_of_build hbuild')
      (wellFormed_of_build hbuild')
    rw [hnodes, hedges, hread'] at hread
    obtain ⟨hnames, htable⟩ := Prod.mk.inj (Option.some.inj hread)
    exact ⟨hnames.symm, htable.symm⟩

example :
    retryMachine.toGraph.nodes =
      [⟨"Init", some .box⟩, ⟨"Check", some .ellipse⟩, ⟨"Done", some .diamond⟩] ∧
    retryMachine.toGraph.edges =
      [⟨"Init", "Check", none⟩, ⟨"Check", "Done", some "T"⟩,
        ⟨"Check", "Init", some "F"⟩] := by
  decide +kernel

/-- The small machine has a node of each shape, and its diagram is that of the machine
with another setting. -/
theorem depicted_retry :
    retry.build = .ok retryMachine ∧ retryMachine.Depicted retry ∧
      retryMachine.toGraph.nodes =
        [⟨"Init", some .box⟩, ⟨"Check", some .ellipse⟩, ⟨"Done", some .diamond⟩] ∧
      lenient.build = .ok lenientMachine ∧
      retryMachine.stateNames = lenientMachine.stateNames ∧
      retryMachine.table = lenientMachine.table := by
  obtain ⟨hdepicted, hsame⟩ := depicted_of_build build_retry
  have hnodes := hdepicted.nodes_eq
  refine ⟨build_retry, hdepicted, hnodes, build_lenient, ?_⟩
  exact hsame Nat Nat lenient lenientMachine build_lenient (by decide +kernel)
    (by decide +kernel)

end Blueprint
end Flowchart

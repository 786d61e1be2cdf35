import Flowchart.Proofs.Graph.Text

/-!
# What the text of a graph tells

Two graphs with one text are the same drawing.  They have their names, labels and font
sizes in common, their edges in order, and for each shape the names of the nodes that are
drawn with it.

A text has its tokens, so this is about tokens only.  They are taken apart from the front.
Each part is followed by something that it cannot go on with: no semicolon comes behind the
names of a shape, no second declaration of a shape behind the first, and the tokens of an
edge have an arrow where those of the properties have none.
-/

namespace Flowchart

theorem Shape.name_injective :
    Function.Injective Shape.name := by
  have hall : ∀ shape shape' : Shape, shape.name = shape'.name → shape = shape' := by
    rintro (_ | _ | _) (_ | _ | _) <;> decide
  exact fun shape shape' h => hall shape shape' h

namespace Graph

open Dot

/-- Two graphs that are drawn alike. -/
structure SameDrawing (g g' : Graph) : Prop where
  name_eq : g.name = g'.name
  label_eq : g.label = g'.label
  fontSize_eq : g.fontSize = g'.fontSize
  edges_eq : g.edges = g'.edges
  drawn_eq : ∀ shape, g.drawn shape = g'.drawn shape

/-! ### Properties -/

theorem closing_inj
    {g g' : Graph}
    (h : g.closingStatements.flatten = g'.closingStatements.flatten) :
    g.label = g'.label ∧ g.fontSize = g'.fontSize := by
  simpa [closingStatements] using h

/-! ### Edges -/

/-- A label ends with a bracket, and no label begins with a semicolon. -/
theorem label_inj
    {label label' : Option String}
    {rest rest' : List Token}
    (h : labelTokens label ++ .sign ';' :: rest =
      labelTokens label' ++ .sign ';' :: rest') :
    label = label' ∧ rest = rest' := by
  cases label with
  | none =>
      cases label' with
      | none => simpa [labelTokens] using h
      | some text' => simp [labelTokens] at h
  | some text =>
      cases label' with
      | none => simp [labelTokens] at h
      | some text' => simpa [labelTokens] using h

theorem edge_inj
    {e e' : Edge}
    {rest rest' : List Token}
    (h : edgeTokens e ++ rest = edgeTokens e' ++ rest') :
    e = e' ∧ rest = rest' := by
  obtain ⟨source, target, label⟩ := e
  obtain ⟨source', target', label'⟩ := e'
  simp only [edgeTokens, List.append_assoc, List.cons_append, List.nil_append,
    List.cons.injEq, nameToken_injective.eq_iff, true_and] at h
  obtain ⟨rfl, rfl, hlabel⟩ := h
  obtain ⟨rfl, rfl⟩ := label_inj hlabel
  exact ⟨rfl, rfl⟩

/-- Edges are taken one by one up to the properties. -/
theorem edges_inj
    {edges edges' : List Edge}
    {g g' : Graph}
    (h : (edges.map edgeTokens).flatten ++ g.closingStatements.flatten =
      (edges'.map edgeTokens).flatten ++ g'.closingStatements.flatten) :
    edges = edges' ∧ g.closingStatements.flatten = g'.closingStatements.flatten := by
  induction edges generalizing edges' with
  | nil =>
      cases edges' with
      | nil => exact ⟨rfl, h⟩
      | cons e' edges' =>
          simp [closingStatements, edgeTokens] at h
  | cons e edges ih =>
      cases edges' with
      | nil =>
          simp [closingStatements, edgeTokens] at h
      | cons e' edges' =>
          simp only [List.map_cons, List.flatten_cons, List.append_assoc] at h
          obtain ⟨rfl, hrest⟩ := edge_inj h
          obtain ⟨rfl, hclosing⟩ := ih hrest
          exact ⟨rfl, hclosing⟩

/-! ### Shapes -/

/-- The tokens neither go on with the names of a shape nor declare nodes of it. -/
structure Ends (shape : Shape) (tokens : List Token) : Prop where
  not_semicolon : tokens.head? ≠ some (.sign ';')
  not_shape : ¬ shapeTokens shape <+: tokens

/-- The tokens of the nodes of a shape, if there are any. -/
def shapePart (shape : Shape) (names : List String) : List Token :=
  if names = [] then [] else groupTokens shape names

theorem flatten_groups
    (g : Graph)
    (shapes : List Shape) :
    (shapes.filterMap g.groupTokens?).flatten =
      shapes.flatMap fun shape => shapePart shape (g.drawn shape) := by
  induction shapes with
  | nil => rfl
  | cons shape shapes ih =>
      rw [List.filterMap_cons, List.flatMap_cons, ← ih, shapePart, groupTokens?_eq]
      split_ifs <;> rfl

theorem shapeTokens_inj
    {shape shape' : Shape}
    {rest : List Token}
    (h : shapeTokens shape <+: shapeTokens shape' ++ rest) :
    shape = shape' := by
  obtain ⟨tail, h⟩ := h
  simp only [shapeTokens, List.cons_append, List.cons.injEq, Token.word.injEq,
    true_and] at h
  exact Shape.name_injective h.1

/-- All but the first of some names. -/
def laterNames (names : List String) : List Token :=
  names.flatMap fun name => [.sign ';', nameToken name]

theorem groupTokens_cons
    (shape : Shape)
    (name : String)
    (names : List String) :
    groupTokens shape (name :: names) =
      shapeTokens shape ++ nameToken name :: laterNames names := by
  induction names generalizing name with
  | nil => rfl
  | cons next names ih =>
      have htail := List.append_cancel_left (ih next)
      rw [List.map_cons] at htail
      rw [groupTokens, List.map_cons, List.map_cons, List.intercalate_cons_cons, htail]
      rfl

/-- Names are taken one by one up to where no semicolon comes. -/
theorem laterNames_inj
    {names names' : List String}
    {rest rest' : List Token}
    (hrest : rest.head? ≠ some (.sign ';'))
    (hrest' : rest'.head? ≠ some (.sign ';'))
    (h : laterNames names ++ rest = laterNames names' ++ rest') :
    names = names' ∧ rest = rest' := by
  induction names generalizing names' with
  | nil =>
      cases names' with
      | nil => exact ⟨rfl, h⟩
      | cons name' names' =>
          refine absurd ?_ hrest
          rw [show rest = _ from h]
          rfl
  | cons name names ih =>
      cases names' with
      | nil =>
          refine absurd ?_ hrest'
          rw [show rest' = _ from h.symm]
          rfl
      | cons name' names' =>
          obtain ⟨hname, htail⟩ : nameToken name = nameToken name' ∧
              laterNames names ++ rest = laterNames names' ++ rest' := by
            simpa [laterNames] using h
          obtain rfl := nameToken_injective hname
          obtain ⟨rfl, rfl⟩ := ih htail
          exact ⟨rfl, rfl⟩

/-- The nodes of one shape are known from the tokens up to where they end. -/
theorem shapePart_inj
    {shape : Shape}
    {names names' : List String}
    {rest rest' : List Token}
    (hrest : Ends shape rest)
    (hrest' : Ends shape rest')
    (h : shapePart shape names ++ rest = shapePart shape names' ++ rest') :
    names = names' ∧ rest = rest' := by
  cases names with
  | nil =>
      cases names' with
      | nil => exact ⟨rfl, h⟩
      | cons name' names' =>
          refine absurd ?_ hrest.not_shape
          rw [show rest = groupTokens shape (name' :: names') ++ rest' from h,
            groupTokens_cons, List.append_assoc]
          exact List.prefix_append _ _
  | cons name names =>
      cases names' with
      | nil =>
          refine absurd ?_ hrest'.not_shape
          rw [show rest' = groupTokens shape (name :: names) ++ rest from h.symm,
            groupTokens_cons, List.append_assoc]
          exact List.prefix_append _ _
      | cons name' names' =>
          replace h : groupTokens shape (name :: names) ++ rest =
            groupTokens shape (name' :: names') ++ rest' := h
          rw [groupTokens_cons, groupTokens_cons, List.append_assoc, List.append_assoc,
            List.append_cancel_left_eq, List.cons_append, List.cons_append] at h
          obtain ⟨hname, htail⟩ := List.cons.inj h
          obtain rfl := nameToken_injective hname
          obtain ⟨rfl, rfl⟩ :=
            laterNames_inj hrest.not_semicolon hrest'.not_semicolon htail
          exact ⟨rfl, rfl⟩

/-- The nodes of a shape end where those of another begin. -/
theorem Ends.append
    {shape : Shape}
    {rest : List Token}
    (hrest : Ends shape rest)
    {shapes : List Shape}
    (hshape : shape ∉ shapes)
    (names : Shape → List String) :
    Ends shape ((shapes.flatMap fun s => shapePart s (names s)) ++ rest) := by
  induction shapes with
  | nil => exact hrest
  | cons next shapes ih =>
      obtain ⟨hne, hlater⟩ : shape ≠ next ∧ shape ∉ shapes := by
        simpa using hshape
      rw [List.flatMap_cons, List.append_assoc]
      cases hnames : names next with
      | nil => exact ih hlater
      | cons name others =>
          have hpart : shapePart next (name :: others) = _ :=
            groupTokens_cons next name others
          rw [hpart, List.append_assoc]
          exact ⟨by simp [shapeTokens], fun hprefix => hne (shapeTokens_inj hprefix)⟩

/-- The nodes of all shapes are known from the tokens. -/
theorem shapes_inj
    {shapes : List Shape}
    (hnodup : shapes.Nodup)
    {names names' : Shape → List String}
    {rest rest' : List Token}
    (hrest : ∀ shape ∈ shapes, Ends shape rest)
    (hrest' : ∀ shape ∈ shapes, Ends shape rest')
    (h : (shapes.flatMap fun s => shapePart s (names s)) ++ rest =
      (shapes.flatMap fun s => shapePart s (names' s)) ++ rest') :
    (∀ shape ∈ shapes, names shape = names' shape) ∧ rest = rest' := by
  induction shapes with
  | nil => exact ⟨by simp, h⟩
  | cons shape shapes ih =>
      obtain ⟨hfresh, hnodup⟩ := List.nodup_cons.1 hnodup
      rw [List.flatMap_cons, List.flatMap_cons, List.append_assoc, List.append_assoc] at h
      obtain ⟨hnames, htail⟩ := shapePart_inj
        ((hrest shape (by simp)).append hfresh names)
        ((hrest' shape (by simp)).append hfresh names') h
      obtain ⟨hothers, hend⟩ := ih hnodup (fun s hs => hrest s (.tail _ hs))
        (fun s hs => hrest' s (.tail _ hs)) htail
      exact ⟨List.forall_mem_cons.2 ⟨hnames, hothers⟩, hend⟩

/-- Edges and properties are no nodes. -/
theorem ends_edges
    (g : Graph)
    (shape : Shape) :
    Ends shape ((g.edges.map edgeTokens).flatten ++ g.closingStatements.flatten) := by
  have hname : ∀ name, nameToken name ≠ .sign ';' := by
    intro name
    unfold nameToken
    split_ifs <;> exact Token.noConfusion
  constructor
  · cases g.edges <;> simp [closingStatements, edgeTokens, hname]
  · rintro ⟨tail, h⟩
    cases hedges : g.edges <;> rw [hedges] at h <;>
      simp [shapeTokens, closingStatements, edgeTokens] at h

/-! ### Graphs -/

theorem sameDrawing_of_tokens
    {g g' : Graph}
    (h : g.statements.flatten = g'.statements.flatten) :
    g.SameDrawing g' := by
  simp only [statements, List.flatten_append, flatten_groups, List.append_assoc,
    List.flatten_singleton] at h
  obtain ⟨hname, hrest⟩ : nameToken g.name = nameToken g'.name ∧ _ := by
    simpa only [openingTokens, List.cons_append, List.nil_append, List.cons.injEq,
      true_and] using h
  have hnodup : [Shape.box, .diamond, .ellipse].Nodup := by
    decide
  obtain ⟨hdrawn, hedges⟩ := shapes_inj hnodup (fun shape _ => g.ends_edges shape)
    (fun shape _ => g'.ends_edges shape) hrest
  obtain ⟨hedges, hclosing⟩ := edges_inj hedges
  obtain ⟨hlabel, hsize⟩ := closing_inj hclosing
  exact
    { name_eq := nameToken_injective hname
      label_eq := hlabel
      fontSize_eq := hsize
      edges_eq := hedges
      drawn_eq := fun shape => hdrawn shape (by cases shape <;> simp) }

theorem SameDrawing.lines_eq
    {g g' : Graph}
    (h : g.SameDrawing g') :
    g.lines = g'.lines := by
  have hgroups : g.groupLine? = g'.groupLine? := by
    funext shape
    rw [groupLine?_eq, groupLine?_eq, h.drawn_eq]
  rw [lines, lines, h.name_eq, h.label_eq, h.fontSize_eq, h.edges_eq, hgroups]

/-- Texts are equal exactly for graphs that are drawn alike. -/
theorem text_eq_iff_sameDrawing
    (g g' : Graph) :
    g.text = g'.text ↔ g.SameDrawing g' := by
  constructor
  · intro h
    have htokens := congrArg tokens? h
    rw [tokens?_text, tokens?_text] at htokens
    exact sameDrawing_of_tokens (Option.some.inj htokens)
  · intro h
    rw [text, text, h.lines_eq]

/-- An empty label is not the same as none. -/
example : text { name := "G", edges := [⟨"A", "B", some ""⟩] } ≠
    text { name := "G", edges := [⟨"A", "B", none⟩] } := by
  decide +kernel

end Graph
end Flowchart

import Flowchart.Proofs.Integrity
import Flowchart.Proofs.Interpreter
import Flowchart.Proofs.Mirror
import Flowchart.Proofs.Valid
import Mathlib.Data.List.Forall2

/-!
# The order of declarations

States are numbered in the order of their declaration, but the numbers mean nothing
outside a machine.  Where every code names its targets, no code leaves anything to the
next declared state, and then two blueprints that declare and register the same in
different orders build the same machine up to the numbers of its states.

Whether a blueprint builds is compared by the conditions of validity, none of which
speaks of an order once codes are explicit.  The machines are compared by renumbering:
a state of the one is found in the other by its name.  The machines mirror each other
along this renumbering, so calls tell the same story of both.
-/

namespace Flowchart

variable {ω D : Type}

namespace Code

/-- Whether a code says itself where each outcome leads. -/
def Explicit : Code → Prop
  | next | branch _ _ => False
  | stop | goto _ | both _ _ => True

variable {code : Code}

theorem Explicit.not_needsSuccessor
    (h : code.Explicit) :
    ¬ code.NeedsSuccessor := by
  cases code <;> simp_all [Explicit, NeedsSuccessor]

/-- An explicit code means the same kind of state wherever it stands. -/
theorem Explicit.kindAt_eq
    (h : code.Explicit)
    (position count position' count' : Nat) :
    code.kindAt position count = code.kindAt position' count' := by
  cases code with
  | next | branch => exact h.elim
  | stop | goto | both => rfl

/-- An explicit code leads to the same states wherever it stands, if they are found
under other numbers. -/
theorem Explicit.row?_rename
    (h : code.Explicit)
    {find find' : String → Option StateId}
    {f : StateId → StateId}
    (hfind : ∀ token, find' token = (find token).map f)
    (position count position' count' : Nat) :
    code.row? find' position' count' =
      (code.row? find position count).map (Row.rename f) := by
  cases code with
  | next | branch => exact h.elim
  | stop => rfl
  | goto target =>
      simp only [row?, hfind]
      cases find target <;> rfl
  | both onTrue onFalse =>
      simp only [row?, hfind]
      cases find onTrue with
      | none => rfl
      | some first => cases find onFalse <;> rfl

end Code

namespace Blueprint

/-- Whether every code that can be read says itself where each outcome leads. -/
def Explicit (b : Blueprint ω D) : Prop :=
  ∀ d ∈ b.declarations, ∀ code, Code.parse d.code = .ok code → code.Explicit

/-- The second blueprint declares and registers the same in any other order. -/
structure Reorders (b b' : Blueprint ω D) : Prop where
  name_eq : b'.name = b.name
  declarations_perm : b.declarations.Perm b'.declarations
  handlers_perm : b.handlers.Perm b'.handlers
  start_eq : b'.start = b.start
  settings_eq : b'.settings = b.settings
  hooks_eq : b'.hooks = b.hooks

variable {b b' : Blueprint ω D}

namespace Reorders

theorem symm
    (h : b.Reorders b') :
    b'.Reorders b where
  name_eq := h.name_eq.symm
  declarations_perm := h.declarations_perm.symm
  handlers_perm := h.handlers_perm.symm
  start_eq := h.start_eq.symm
  settings_eq := h.settings_eq.symm
  hooks_eq := h.hooks_eq.symm

theorem names_perm
    (h : b.Reorders b') :
    b.names.Perm b'.names :=
  h.declarations_perm.map _

theorem length_eq
    (h : b.Reorders b') :
    b'.declarations.length = b.declarations.length :=
  h.declarations_perm.length_eq.symm

theorem explicit
    (h : b.Reorders b')
    (hexplicit : b.Explicit) :
    b'.Explicit :=
  fun d hd => hexplicit d (h.declarations_perm.mem_iff.2 hd)

/-! ### What can be built -/

theorem acronyms_nodup
    (h : b.Reorders b')
    (hvalid : b.Valid) :
    (b'.names.map acronym).Nodup :=
  (h.names_perm.map acronym).nodup_iff.1 hvalid.acronyms_nodup

theorem registered_nodup
    (h : b.Reorders b')
    (hvalid : b.Valid) :
    (b'.handlers.map Prod.fst).Nodup :=
  (h.handlers_perm.map Prod.fst).nodup_iff.1 hvalid.registered_nodup

theorem declares
    (h : b.Reorders b')
    {token : String}
    (hdeclares : b.Declares token) :
    b'.Declares token := by
  obtain ⟨name, hname, haddresses⟩ := hdeclares
  exact ⟨name, h.names_perm.mem_iff.1 hname, haddresses⟩

/-- A declaration of the one stands somewhere in the other. -/
theorem exists_position
    (h : b.Reorders b')
    {p : Nat}
    {d : Declaration}
    (hd : b'.declarations[p]? = some d) :
    ∃ q : Nat, b.declarations[q]? = some d :=
  List.mem_iff_getElem?.1 (h.declarations_perm.mem_iff.2 (List.mem_of_getElem? hd))

theorem compiles
    (h : b.Reorders b')
    (hexplicit : b.Explicit)
    {p q : Nat}
    {d : Declaration}
    (hd : b.declarations[p]? = some d)
    (hcompiles : b.Compiles p d) :
    b'.Compiles q d := by
  obtain ⟨code, hparse, htokens, -⟩ := hcompiles
  have hcode := hexplicit d (List.mem_of_getElem? hd) code hparse
  exact ⟨code, hparse, fun token htoken => h.declares (htokens token htoken),
    fun hneeds => absurd hneeds hcode.not_needsSuccessor⟩

theorem hasKind
    (hexplicit : b.Explicit)
    {p q : Nat}
    {d : Declaration}
    {kind : Kind}
    (hd : b.declarations[p]? = some d)
    (hkind : b'.HasKind q d kind) :
    b.HasKind p d kind := by
  obtain ⟨code, hparse, hkind⟩ := hkind
  have hcode := hexplicit d (List.mem_of_getElem? hd) code hparse
  exact ⟨code, hparse, (hcode.kindAt_eq _ _ _ _).trans hkind⟩

/-- Every condition of validity holds in any order, where codes are explicit. -/
theorem valid
    (h : b.Reorders b')
    (hexplicit : b.Explicit)
    (hvalid : b.Valid) :
    b'.Valid where
  declared := fun hempty => hvalid.declared
    (List.perm_nil.1 (hempty ▸ h.declarations_perm))
  capital := fun name hname => hvalid.capital name (h.names_perm.mem_iff.2 hname)
  acronyms_nodup := h.acronyms_nodup hvalid
  compiles := by
    intro p d hd
    obtain ⟨q, hq⟩ := h.exists_position hd
    exact h.compiles hexplicit hq (hvalid.compiles q d hq)
  start_declared := by
    intro token htoken
    rw [h.start_eq] at htoken
    exact h.declares (hvalid.start_declared token htoken)
  registered_nodup := h.registered_nodup hvalid
  handlerNames_nodup :=
    (h.names_perm.map handlerName).nodup_iff.1 hvalid.handlerNames_nodup
  served := by
    intro p d kind hd hkind hne
    obtain ⟨q, hq⟩ := h.exists_position hd
    obtain ⟨handler, hmem, heq⟩ :=
      hvalid.served q d kind hq (hasKind hexplicit hq hkind) hne
    exact ⟨handler, h.handlers_perm.mem_iff.1 hmem, heq⟩
  terminal_unserved := by
    intro p d hd hkind handler hmem
    obtain ⟨q, hq⟩ := h.exists_position hd
    exact hvalid.terminal_unserved q d hq (hasKind hexplicit hq hkind) handler
      (h.handlers_perm.mem_iff.2 hmem)
  terminal_ending := by
    intro p d hd hkind
    obtain ⟨q, hq⟩ := h.exists_position hd
    rw [h.settings_eq]
    exact hvalid.terminal_ending q d hq (hasKind hexplicit hq hkind)
  registered_declared := by
    intro r hr
    obtain ⟨name, hname, heq⟩ :=
      hvalid.registered_declared r (h.handlers_perm.mem_iff.2 hr)
    exact ⟨name, h.names_perm.mem_iff.1 hname, heq⟩

theorem builds
    (h : b.Reorders b')
    (hexplicit : b.Explicit)
    (hbuilds : ∃ m, b.build = .ok m) :
    ∃ m', b'.build = .ok m' := by
  obtain ⟨m, hbuild⟩ := hbuilds
  exact (h.valid hexplicit (valid_of_build hbuild)).exists_build

end Reorders

/-! ### Renumbering -/

/-- The position in the second blueprint of the state at a position in the first. -/
def renumber (b b' : Blueprint ω D) (p : StateId) : StateId :=
  match b.names[p]? with
  | some name => b'.names.idxOf name
  | none => p

theorem renumber_of_none
    {p : StateId}
    (hp : b.names[p]? = none) :
    b.renumber b' p = p := by
  simp [renumber, hp]

namespace Reorders

section Valid

variable (h : b.Reorders b') (hvalid : b.Valid)

include h

theorem name_renumber
    {p : StateId}
    {name : String}
    (hp : b.names[p]? = some name) :
    b'.names[b.renumber b' p]? = some name := by
  have hmem : name ∈ b'.names := h.names_perm.mem_iff.1 (List.mem_of_getElem? hp)
  have hlt := List.idxOf_lt_length_of_mem hmem
  simp [renumber, hp, List.getElem?_eq_getElem hlt]

/-- What is no position stays none. -/
theorem names_renumber
    (p : StateId) :
    b'.names[b.renumber b' p]? = b.names[p]? := by
  cases hp : b.names[p]? with
  | some name => exact h.name_renumber hp
  | none =>
      rw [renumber_of_none hp, List.getElem?_eq_none_iff, ← h.names_perm.length_eq]
      exact List.getElem?_eq_none_iff.1 hp

include hvalid

/-- The state of a name has one position in the other order. -/
theorem renumber_eq
    {p q : StateId}
    {name : String}
    (hp : b.names[p]? = some name)
    (hq : b'.names[q]? = some name) :
    b.renumber b' p = q :=
  position_unique (h.acronyms_nodup hvalid) (h.name_renumber hp) hq (.inr rfl) (.inr rfl)

theorem renumber_injective :
    Function.Injective (b.renumber b') := by
  intro p q heq
  have hnames : b.names[p]? = b.names[q]? := by
    rw [← h.names_renumber p, heq, h.names_renumber q]
  cases hp : b.names[p]? with
  | some name =>
      exact position_unique hvalid.acronyms_nodup hp (hnames ▸ hp) (.inr rfl) (.inr rfl)
  | none =>
      rw [renumber_of_none hp, renumber_of_none (hnames ▸ hp)] at heq
      exact heq

/-- A declaration is found under its new number. -/
theorem declaration_renumber
    {p : StateId}
    {d : Declaration}
    (hd : b.declarations[p]? = some d) :
    b'.declarations[b.renumber b' p]? = some d := by
  obtain ⟨q, hq⟩ := h.symm.exists_position hd
  have hp : b.names[p]? = some d.name := by
    simp [names, hd]
  have hq' : b'.names[q]? = some d.name := by
    simp [names, hq]
  rw [h.renumber_eq hvalid hp hq', hq]

/-- A token finds the same state in any order. -/
theorem position?_renumber
    (token : String) :
    position? b'.names token = (position? b.names token).map (b.renumber b') := by
  have hnodup' := h.acronyms_nodup hvalid
  cases hp : position? b.names token with
  | some p =>
      obtain ⟨name, hname, haddresses⟩ :=
        (position?_eq_some_iff hvalid.acronyms_nodup token p).1 hp
      exact (position?_eq_some_iff hnodup' token _).2
        ⟨name, h.name_renumber hname, haddresses⟩
  | none =>
      -- a state that the token found in the other order would be found in this one
      rw [Option.map_none, Option.eq_none_iff_forall_ne_some]
      intro q hq
      obtain ⟨name, hname, haddresses⟩ := (position?_eq_some_iff hnodup' token q).1 hq
      obtain ⟨p, hp'⟩ := List.mem_iff_getElem?.1
        (h.names_perm.mem_iff.2 (List.mem_of_getElem? hname))
      have := (position?_eq_some_iff hvalid.acronyms_nodup token p).2
        ⟨name, hp', haddresses⟩
      rw [hp] at this
      cases this

/-- The row of an explicit declaration in the other order. -/
theorem rowAt?_renumber
    (hexplicit : b.Explicit)
    {p q : StateId}
    {d : Declaration}
    (hd : b.declarations[p]? = some d) :
    b'.rowAt? q d = (b.rowAt? p d).map (Row.rename (b.renumber b')) := by
  unfold rowAt?
  cases hparse : Code.parse d.code with
  | error reason => rfl
  | ok code =>
      exact (hexplicit d (List.mem_of_getElem? hd) code hparse).row?_rename
        (h.position?_renumber hvalid) _ _ _ _

/-- One handler at most is registered under a name, so the order of registration does
not matter. -/
theorem lookup_eq
    (name : String) :
    b'.handlers.lookup name = b.handlers.lookup name := by
  apply Option.ext
  intro handler
  rw [Entries.lookup_eq_some_iff_mem (h.registered_nodup hvalid),
    Entries.lookup_eq_some_iff_mem hvalid.registered_nodup, h.handlers_perm.mem_iff]

end Valid

/-! ### The machines -/

section Built

variable {m m' : Machine ω D} (h : b.Reorders b') (hbuild : b.build = .ok m)
  (hbuild' : b'.build = .ok m')

include h hbuild hbuild'

theorem nameOf?_renumber
    (p : StateId) :
    m'.nameOf? (b.renumber b' p) = m.nameOf? p := by
  rw [nameOf?_of_build hbuild', nameOf?_of_build hbuild, h.names_renumber]

/-- What is no state of the one is no state of the other. -/
theorem states_renumber_of_none
    {p : StateId}
    (hd : b.declarations[p]? = none) :
    m.states[p]? = none ∧ m'.states[b.renumber b' p]? = none := by
  have hlen := List.getElem?_eq_none_iff.1 hd
  have hname : b.names[p]? = none := by
    simp [names, hd]
  rw [renumber_of_none hname, List.getElem?_eq_none_iff, List.getElem?_eq_none_iff,
    length_states_of_build hbuild, length_states_of_build hbuild', h.length_eq]
  exact ⟨hlen, hlen⟩

/-- A state has the same handler in any order. -/
theorem handler?_renumber
    (p : StateId) :
    m'.handler? (b.renumber b' p) = m.handler? p := by
  have hvalid := valid_of_build hbuild
  cases hd : b.declarations[p]? with
  | some d =>
      rw [handler?_of_build hbuild' (h.declaration_renumber hvalid hd),
        handler?_of_build hbuild hd, h.lookup_eq hvalid]
  | none =>
      obtain ⟨hs, hs'⟩ := h.states_renumber_of_none hbuild hbuild' hd
      simp [Machine.handler?, hs, hs']

theorem row?_renumber
    (hexplicit : b.Explicit)
    (p : StateId) :
    m'.row? (b.renumber b' p) = (m.row? p).map (Row.rename (b.renumber b')) := by
  have hvalid := valid_of_build hbuild
  cases hd : b.declarations[p]? with
  | some d =>
      obtain ⟨row, hrow, hs⟩ := state_of_build hbuild hd
      obtain ⟨row', hrow', hs'⟩ :=
        state_of_build hbuild' (h.declaration_renumber hvalid hd)
      rw [h.rowAt?_renumber hvalid hexplicit hd, hrow] at hrow'
      simpa [Machine.row?, hs, hs', stateOf] using hrow'.symm
  | none =>
      obtain ⟨hs, hs'⟩ := h.states_renumber_of_none hbuild hbuild' hd
      simp [Machine.row?, hs, hs']

/-- Where the start is named, it is the same state in any order. -/
theorem start_renumber
    (hstart : b.start.isSome = true) :
    m'.start = b.renumber b' m.start := by
  obtain ⟨token, htoken⟩ := Option.isSome_iff_exists.1 hstart
  have hm := start?_of_build hbuild
  have hm' := start?_of_build hbuild'
  simp only [start?, htoken] at hm
  simp only [start?, h.start_eq, htoken] at hm'
  rw [h.position?_renumber (valid_of_build hbuild), hm] at hm'
  exact (Option.some.inj hm').symm

/-- Machines that are built from the same declarations in different orders mirror each
other. -/
theorem mirrors
    (hexplicit : b.Explicit)
    {S : ω → ω → Prop}
    (hrespect : ∀ r ∈ b.handlers, r.2.Respects S) :
    m.Mirrors S m' (b.renumber b') where
  name_eq := by
    obtain ⟨-, -, -, _, _, -, -, -, rfl⟩ := (build_eq_ok_iff b m).1 hbuild
    obtain ⟨-, -, -, _, _, -, -, -, rfl⟩ := (build_eq_ok_iff b' m').1 hbuild'
    exact h.name_eq
  settings_eq := by
    obtain ⟨-, -, -, _, _, -, -, -, rfl⟩ := (build_eq_ok_iff b m).1 hbuild
    obtain ⟨-, -, -, _, _, -, -, -, rfl⟩ := (build_eq_ok_iff b' m').1 hbuild'
    exact h.settings_eq
  injective := h.renumber_injective (valid_of_build hbuild)
  row_eq := h.row?_renumber hbuild hbuild' hexplicit
  label_eq := by
    intro p
    cases hp : m.nameOf? p with
    | some name =>
        simp [Machine.label, h.nameOf?_renumber hbuild hbuild', hp]
    | none =>
        have hname : b.names[p]? = none := by
          rw [← nameOf?_of_build hbuild, hp]
        have hp' := h.nameOf?_renumber hbuild hbuild' p
        rw [renumber_of_none hname] at hp' ⊢
        simp [Machine.label, hp', hp]
  acts := by
    intro p
    rw [h.handler?_renumber hbuild hbuild']
    exact rel_self fun handler hh =>
      (forall_handler_of_build hbuild hrespect p handler hh).actsAlike

end Built

end Reorders
end Blueprint

/-! ### The same story -/

namespace Machine

/-- The two numbers are those of a state with one name. -/
def Namesakes (m m' : Machine ω D) (p p' : StateId) : Prop :=
  ∃ name, m.nameOf? p = some name ∧ m'.nameOf? p' = some name

/-- The two machines agree state name by state name. -/
structure SameByName (m m' : Machine ω D) : Prop where
  names_perm : m.stateNames.Perm m'.stateNames
  start : m.Namesakes m' m.start m'.start
  kind_eq : ∀ p p', m.Namesakes m' p p' → m'.kind? p' = m.kind? p
  targets_eq : ∀ p p', m.Namesakes m' p p' →
    (m'.row? p').map (fun row => row.targets.map m'.nameOf?) =
      (m.row? p).map (fun row => row.targets.map m.nameOf?)
  handler_eq : ∀ p p', m.Namesakes m' p p' → m'.handler? p' = m.handler? p

/-- The two steps did the same to states with the same names. -/
inductive SameAnswer (m m' : Machine ω D) :
    Except RunError StepResult → Except RunError StepResult → Prop
  | failed (e : RunError) :
      SameAnswer m m' (.error e) (.error e)
  | advanced {source source' target target' : StateId} (branch : Option Bool) :
      m.Namesakes m' source source' →
      m.Namesakes m' target target' →
      SameAnswer m m' (.ok (.advanced source target branch))
        (.ok (.advanced source' target' branch))
  | halted {state state' : StateId} :
      m.Namesakes m' state state' →
      SameAnswer m m' (.ok (.halted state)) (.ok (.halted state'))

/-- The two instances stand in states with the same name and have the same books up to
the numbers of the states and the times in the logs. -/
structure SameStory (m m' : Machine ω D) (i i' : Instance ω D) : Prop where
  current : m.Namesakes m' i.current i'.current
  steps_eq : i'.steps = i.steps
  visits_eq : ∀ p p', m.Namesakes m' p p' → i'.visits[p']? = i.visits[p]?
  data_eq : i'.data = i.data
  log_eq : i'.log.untimed = i.log.untimed

section Calls

variable {m : Machine ω D} {i : Instance ω D}

/-- Calls lead from states to states. -/
theorem after_current_lt
    (hm : m.WellFormed)
    (hlt : i.current < m.states.length)
    (calls : List (Option Bool)) :
    (m.after calls i).current < m.states.length := by
  induction calls generalizing i with
  | nil => exact hlt
  | cons forced rest ih => exact ih ((m.advance_spec forced i).current_lt hm hlt)

/-- The answers of calls mention states only. -/
theorem answers_states_lt
    (hm : m.WellFormed)
    (hlt : i.current < m.states.length)
    {calls : List (Option Bool)}
    {result : StepResult}
    (hresult : .ok result ∈ m.answers calls i) :
    ∀ s ∈ result.states, s < m.states.length := by
  induction calls generalizing i with
  | nil => cases hresult
  | cons forced rest ih =>
      have hspec := m.advance_spec forced i
      rcases List.mem_cons.1 hresult with hfirst | hlater
      · rw [← hfirst] at hspec
        exact hspec.states_lt hm hlt
      · exact ih (hspec.current_lt hm hlt) hlater

/-- An answer about states is the same with the numbers of their namesakes. -/
theorem sameAnswer_rename
    {m' : Machine ω D}
    {f : StateId → StateId}
    (hnamesakes : ∀ p < m.states.length, m.Namesakes m' p (f p))
    {answer : Except RunError StepResult}
    (hstates : ∀ result, answer = .ok result →
      ∀ s ∈ result.states, s < m.states.length) :
    m.SameAnswer m' answer (answer.map (StepResult.rename f)) := by
  cases answer with
  | error e => exact .failed e
  | ok result =>
      have hlt := hstates result rfl
      cases result with
      | halted state =>
          exact .halted (hnamesakes _ (hlt _ (by simp [StepResult.states])))
      | advanced source target branch =>
          exact .advanced branch (hnamesakes _ (hlt _ (by simp [StepResult.states])))
            (hnamesakes _ (hlt _ (by simp [StepResult.states])))

end Calls

end Machine

namespace Blueprint

variable {b b' : Blueprint ω D} {m m' : Machine ω D}

section Namesakes

variable (h : b.Reorders b') (hbuild : b.build = .ok m) (hbuild' : b'.build = .ok m')

include h hbuild hbuild'

/-- Every state has a namesake under its new number. -/
theorem namesakes_renumber
    {p : StateId}
    (hlt : p < m.states.length) :
    m.Namesakes m' p (b.renumber b' p) := by
  have hp := m.nameOf?_of_lt hlt
  exact ⟨_, hp, (h.nameOf?_renumber hbuild hbuild' p).trans hp⟩

/-- A state has no other namesake. -/
theorem eq_renumber_of_namesakes
    {p p' : StateId}
    (hnames : m.Namesakes m' p p') :
    p' = b.renumber b' p := by
  obtain ⟨name, hp, hp'⟩ := hnames
  exact id_eq_of_nameOf? hbuild' hp' ((h.nameOf?_renumber hbuild hbuild' p).trans hp)

theorem sameByName
    (hexplicit : b.Explicit)
    (hstart : b.start.isSome = true) :
    m.SameByName m' where
  names_perm := by
    rw [stateNames_of_build hbuild, stateNames_of_build hbuild']
    exact h.names_perm
  start := by
    rw [h.start_renumber hbuild hbuild' hstart]
    exact namesakes_renumber h hbuild hbuild' (wellFormed_of_build hbuild).start_lt
  kind_eq := by
    intro p p' hnames
    rw [eq_renumber_of_namesakes h hbuild hbuild' hnames, Machine.kind?, Machine.kind?,
      h.row?_renumber hbuild hbuild' hexplicit, Option.map_map]
    simp [Function.comp_def]
  targets_eq := by
    intro p p' hnames
    rw [eq_renumber_of_namesakes h hbuild hbuild' hnames,
      h.row?_renumber hbuild hbuild' hexplicit, Option.map_map]
    simp [Function.comp_def, h.nameOf?_renumber hbuild hbuild']
  handler_eq := by
    intro p p' hnames
    rw [eq_renumber_of_namesakes h hbuild hbuild' hnames,
      h.handler?_renumber hbuild hbuild']

/-- New instances of the two machines with the same data are mirrored. -/
theorem newInstance_mirrored
    (hstart : b.start.isSome = true)
    {S : ω → ω → Prop}
    {w w' : ω}
    (hrelated : S w w')
    (d : D) :
    (m.newInstance w d).Mirrored S (b.renumber b') (m'.newInstance w' d) where
  current_eq := h.start_renumber hbuild hbuild' hstart
  steps_eq := rfl
  visits_eq := by
    intro p
    have hnames := h.nameOf?_renumber hbuild hbuild' p
    simp only [Machine.nameOf?] at hnames
    simp only [Machine.newInstance, List.getElem?_map]
    cases hs : m.states[p]? <;> cases hs' : m'.states[b.renumber b' p]? <;>
      simp [hs, hs'] at hnames ⊢
  data_eq := rfl
  log_eq := rfl
  related := hrelated

end Namesakes

/-- Where codes are explicit and the start is named, declarations and handlers can be
given in any order.  A blueprint builds in each order or in none, and the machines agree
state name by state name and tell the same story of the same calls.  The surroundings of
the two instances may differ by anything that no handler sees. -/
theorem build_reordered
    (hexplicit : b.Explicit)
    (hstart : b.start.isSome = true)
    (h : b.Reorders b') :
    ((∃ m, b.build = .ok m) ↔ ∃ m', b'.build = .ok m') ∧
    ∀ m m', b.build = .ok m → b'.build = .ok m' →
      m.SameByName m' ∧
      ∀ S : ω → ω → Prop, (∀ r ∈ b.handlers, r.2.Respects S) →
        ∀ w w' d, S w w' → ∀ calls,
          List.Forall₂ (m.SameAnswer m') (m.answers calls (m.newInstance w d))
            (m'.answers calls (m'.newInstance w' d)) ∧
          m.SameStory m' (m.after calls (m.newInstance w d))
            (m'.after calls (m'.newInstance w' d)) := by
  refine ⟨⟨h.builds hexplicit, h.symm.builds (h.explicit hexplicit)⟩, ?_⟩
  intro m m' hbuild hbuild'
  refine ⟨sameByName h hbuild hbuild' hexplicit hstart, ?_⟩
  intro S hrespect w w' d hrelated calls
  have hm := wellFormed_of_build hbuild
  have hmirrors := h.mirrors hbuild hbuild' hexplicit hrespect
  have hanswers : ∀ p, Option.Rel (Handler.AnswersAlike S) (m.handler? p)
      (m'.handler? (b.renumber b' p)) := by
    intro p
    rw [h.handler?_renumber hbuild hbuild']
    exact rel_self fun handler hh =>
      (forall_handler_of_build hbuild hrespect p handler hh).answersAlike
  -- new instances have no rules, so no cap refuses a call and all of them are mirrored
  obtain ⟨hcalls, hafter⟩ := hmirrors.calls hanswers
    (newInstance_mirrored h hbuild hbuild' hstart hrelated d) rfl
    (m.not_capRefuses_of_no_rules rfl calls)
  refine ⟨?_, ?_⟩
  · rw [hcalls, List.forall₂_map_right_iff, List.forall₂_same]
    intro answer hanswer
    apply Machine.sameAnswer_rename fun p hp => namesakes_renumber h hbuild hbuild' hp
    rintro result rfl
    exact Machine.answers_states_lt hm hm.start_lt hanswer
  · exact {
      current := by
        rw [hafter.current_eq]
        exact namesakes_renumber h hbuild hbuild'
          (Machine.after_current_lt hm hm.start_lt calls)
      steps_eq := hafter.steps_eq
      visits_eq := by
        intro p p' hnames
        rw [eq_renumber_of_namesakes h hbuild hbuild' hnames, hafter.visits_eq]
      data_eq := hafter.data_eq
      log_eq := hafter.log_eq }

/-- The small machine with a target in every code. -/
def spelledOut : Blueprint Nat Nat :=
  { retry with
    declarations := [⟨"Init", "C"⟩, ⟨"Check", "T->D, F->I"⟩, ⟨"Done", "0"⟩]
    start := some "Init" }

/-- The same, declared and registered backwards. -/
def backwards : Blueprint Nat Nat :=
  { spelledOut with
    declarations := spelledOut.declarations.reverse
    handlers := spelledOut.handlers.reverse }

theorem build_spelledOut :
    spelledOut.build =
      .ok (spelledOut.assemble [.action 1, .decision 2 0, .terminal] 0) :=
  build_eq_assemble (by simp [spelledOut]) (by decide +kernel) (by decide +kernel)
    (by decide +kernel) (by decide +kernel) (List.isEmpty_iff.1 (by decide +kernel))

/-- Backwards the small machine builds too, and six steps of both tell one story. -/
theorem build_backwards :
    ∃ m m' : Machine Nat Nat,
      spelledOut.build = .ok m ∧
      backwards.build = .ok m' ∧
      m.SameByName m' ∧
      (m.after (List.replicate 6 none) (m.newInstance 0 0)).visits = [3, 3, 0] ∧
      m.SameStory m' (m.after (List.replicate 6 none) (m.newInstance 0 0))
        (m'.after (List.replicate 6 none) (m'.newInstance 0 0)) := by
  have hread : spelledOut.declarations.map (fun d => Code.parse d.code) =
      [.ok (.goto "C"), .ok (.both "D" "I"), .ok .stop] := by
    decide +kernel
  have hexplicit : spelledOut.Explicit := by
    intro d hd code hparse
    have hmem : .ok code ∈ spelledOut.declarations.map fun d => Code.parse d.code :=
      List.mem_map.2 ⟨d, hd, hparse⟩
    simp only [hread, List.mem_cons, Except.ok.injEq, List.not_mem_nil, or_false] at hmem
    rcases hmem with rfl | rfl | rfl <;> trivial
  have horder : spelledOut.Reorders backwards :=
    ⟨rfl, (List.reverse_perm _).symm, (List.reverse_perm _).symm, rfl, rfl, rfl⟩
  obtain ⟨hbuilds, hsame⟩ := build_reordered hexplicit rfl horder
  obtain ⟨m', hbuild'⟩ := hbuilds.1 ⟨_, build_spelledOut⟩
  obtain ⟨hnames, hstory⟩ := hsame _ m' build_spelledOut hbuild'
  exact ⟨_, m', build_spelledOut, hbuild', hnames, by decide +kernel,
    (hstory (· = ·) (fun r _ => r.2.respects_eq) 0 0 0 rfl _).2⟩

end Blueprint
end Flowchart

import Flowchart.Blueprint.Build
import Flowchart.Proofs.Binding
import Flowchart.Proofs.Compile
import Flowchart.Proofs.Step

/-!
# What building does

A blueprint builds exactly if each phase accepts it, and the machine is then
assembled from the declarations and their rows.  This module states that once,
and reads off the states of a built machine and the facts that running it relies
on: its start and all targets are declared states, and handlers stand exactly at
the states that are not terminal, each of the kind of its state.
-/

namespace Flowchart

namespace Blueprint

variable {ω D : Type}

/-- The declared names in order. -/
def names (b : Blueprint ω D) : List String :=
  b.declarations.map Declaration.name

/-- The row of a declaration at a position, if its code compiles there. -/
def rowAt? (b : Blueprint ω D) (position : Nat) (d : Declaration) : Option Row :=
  match Code.parse d.code with
  | .ok code => code.row? (position? b.names) position b.declarations.length
  | .error _ => none

/-- The state to begin in, if it is found. -/
def start? (b : Blueprint ω D) : Option StateId :=
  match b.start with
  | none => some 0
  | some token => position? b.names token

/-- The state of a declaration with its row.  Unless it is terminal, it has the handler
that is registered under its handler name. -/
def stateOf (b : Blueprint ω D) (index : Nat) (d : Declaration) (row : Row) :
    State ω D where
  name := d.name
  index := index
  code := d.code
  row := row
  handler := Binding.slot row (b.handlers.lookup (handlerName d.name))

/-- The machine of a blueprint, given its rows and its start. -/
def assemble (b : Blueprint ω D) (rows : List Row) (start : StateId) :
    Machine ω D where
  name := b.name
  states := (b.declarations.zip rows).mapIdx fun index (d, row) => b.stateOf index d row
  directory := Directory.ofEntries b.names
  start := start
  settings := b.settings
  hooks := b.hooks

/-- All codes compile exactly if each result is a row. -/
theorem gather_eq_ok_iff
    (compiled : List (Except BuildError Row))
    (rows : List Row) :
    gather compiled = .ok rows ↔ compiled = rows.map .ok := by
  induction compiled generalizing rows with
  | nil =>
      cases rows <;> simp [gather]
  | cons first rest ih =>
      cases first with
      | error e =>
          cases rows <;> simp [gather]
      | ok row =>
          have hstep : gather (.ok row :: rest) = .ok rows ↔
              ∃ tail, gather rest = .ok tail ∧ rows = row :: tail := by
            unfold gather
            simp only [List.filterMap_cons]
            split
            · simp [Except.toOption, eq_comm]
            · simp
          rw [hstep]
          cases rows with
          | nil =>
              simp
          | cons other tail =>
              simp [ih, eq_comm, and_comm]

/-- Two lists that agree position by position. -/
theorem mapIdx_eq_map_iff
    {α β γ : Type}
    {f : Nat → α → γ}
    {g : β → γ}
    {l : List α}
    {l' : List β} :
    l.mapIdx f = l'.map g ↔
      l.length = l'.length ∧
      ∀ p a a', l[p]? = some a → l'[p]? = some a' → f p a = g a' := by
  constructor
  · intro h
    refine ⟨by simpa using congrArg List.length h, ?_⟩
    intro p a a' ha ha'
    have hp := congrArg (·[p]?) h
    simpa [ha, ha'] using hp
  · rintro ⟨hlen, hall⟩
    apply List.ext_getElem
    · simpa using hlen
    · intro p hp hp'
      have hl : p < l.length := by simpa using hp
      have hl' : p < l'.length := by simpa using hp'
      rw [List.getElem_mapIdx, List.getElem_map]
      exact hall p _ _ (List.getElem?_eq_getElem hl) (List.getElem?_eq_getElem hl')

/-- With the directory of the names, compiling gives the row of a declaration. -/
theorem compile_eq_ok_iff_rowAt?
    {b : Blueprint ω D}
    (hnodup : (b.names.map acronym).Nodup)
    (position : Nat)
    (d : Declaration)
    (row : Row) :
    Code.compile (Directory.ofEntries b.names) b.declarations.length position
        d.name d.code = .ok row ↔
      b.rowAt? position d = some row := by
  have hfind : (Directory.ofEntries b.names).resolve? = position? b.names :=
    funext (Directory.resolve?_ofEntries hnodup)
  rw [Code.compile_eq_ok_iff, hfind, rowAt?]
  cases Code.parse d.code <;> simp

/-- The rows of a blueprint are those of its declarations, position by
position. -/
theorem rows_eq_ok_iff
    {b : Blueprint ω D}
    (hnodup : (b.names.map acronym).Nodup)
    (rows : List Row) :
    b.rows (Directory.ofEntries b.names) = .ok rows ↔
      b.declarations.mapIdx b.rowAt? = rows.map some := by
  rw [Blueprint.rows, gather_eq_ok_iff, mapIdx_eq_map_iff, mapIdx_eq_map_iff]
  simp only [compile_eq_ok_iff_rowAt? hnodup]

/-- Every declaration has its row among the rows of a blueprint. -/
theorem exists_row_of_rows
    {b : Blueprint ω D}
    {rows : List Row}
    (hrows : b.declarations.mapIdx b.rowAt? = rows.map some)
    {p : Nat}
    {d : Declaration}
    (hd : b.declarations[p]? = some d) :
    ∃ row, rows[p]? = some row ∧ b.rowAt? p d = some row := by
  obtain ⟨hlen, hall⟩ := mapIdx_eq_map_iff.1 hrows
  have hlt : p < rows.length := by
    rw [← hlen]
    exact (List.getElem?_eq_some_iff.1 hd).1
  have hrow := List.getElem?_eq_getElem hlt
  exact ⟨_, hrow, hall p d _ hd hrow⟩

theorem startId_eq_ok_iff
    {b : Blueprint ω D}
    (hnodup : (b.names.map acronym).Nodup)
    (start : StateId) :
    b.startId (Directory.ofEntries b.names) = .ok start ↔
      b.start? = some start := by
  unfold startId start?
  cases b.start with
  | none =>
      simp
  | some token =>
      simp only [Directory.resolve?_ofEntries hnodup]
      cases position? b.names token <;> simp

/-- The states of a blueprint whose handlers are bound are those of its declarations. -/
theorem states_eq
    (b : Blueprint ω D)
    (rows : List Row) :
    (b.states rows ((b.names.zip rows).map fun s =>
        Binding.slot s.2 (b.handlers.lookup (handlerName s.1)))) =
      (b.assemble rows 0).states := by
  unfold states assemble
  apply List.ext_getElem
  · simp [names]
  · intro p hp hp'
    simp [names, stateOf]

/-- A phase after another is reached only if that one accepts. -/
theorem bind_eq_ok_iff
    {ε α β : Type}
    {x : Except ε α}
    {f : α → Except ε β}
    {result : β} :
    (x >>= f) = .ok result ↔
      ∃ a, x = .ok a ∧ f a = .ok result := by
  cases x with
  | error e =>
      simp [bind, Except.bind]
  | ok a =>
      simp [bind, Except.bind]

/-- A blueprint builds exactly if each phase accepts it, and then the machine is
assembled from what the phases found. -/
theorem build_eq_ok_iff
    (b : Blueprint ω D)
    (m : Machine ω D) :
    b.build = .ok m ↔
      b.declarations ≠ [] ∧
      (∀ name ∈ b.names, ∃ c ∈ name.toList, Text.isUppercase c = true) ∧
      (b.names.map acronym).Nodup ∧
      ∃ rows start,
        b.declarations.mapIdx b.rowAt? = rows.map some ∧
        b.start? = some start ∧
        Binding.problems b.settings b.handlers (b.names.zip rows) = [] ∧
        m = b.assemble rows start := by
  unfold build
  split_ifs with hempty
  · simp [List.isEmpty_iff.1 hempty]
  · have hne : b.declarations ≠ [] := by
      simpa using hempty
    rw [bind_eq_ok_iff]
    constructor
    · rintro ⟨directory, hdir, h⟩
      obtain ⟨hcapital, hnodup, rfl⟩ :=
        (Directory.ofNames_eq_ok_iff b.names directory).1 hdir
      obtain ⟨rows, hrows, h⟩ := bind_eq_ok_iff.1 h
      obtain ⟨start, hstart, h⟩ := bind_eq_ok_iff.1 h
      obtain ⟨handlers, hhandlers, h⟩ := bind_eq_ok_iff.1 h
      obtain ⟨hproblems, rfl⟩ := (Binding.bindHandlers_eq_ok_iff _ _ _ _).1 hhandlers
      refine
        ⟨hne, hcapital, hnodup, rows, start,
          (rows_eq_ok_iff hnodup rows).1 hrows,
          (startId_eq_ok_iff hnodup start).1 hstart, hproblems, ?_⟩
      rw [← Except.ok.inj h, assemble, ← names, states_eq]
      rfl
    · rintro ⟨-, hcapital, hnodup, rows, start, hrows, hstart, hproblems, rfl⟩
      refine
        ⟨Directory.ofEntries b.names,
          (Directory.ofNames_eq_ok_iff b.names _).2 ⟨hcapital, hnodup, rfl⟩, ?_⟩
      refine bind_eq_ok_iff.2 ⟨rows, (rows_eq_ok_iff hnodup rows).2 hrows, ?_⟩
      refine bind_eq_ok_iff.2 ⟨start, (startId_eq_ok_iff hnodup start).2 hstart, ?_⟩
      refine bind_eq_ok_iff.2
        ⟨_, (Binding.bindHandlers_eq_ok_iff _ _ _ _).2 ⟨hproblems, rfl⟩, ?_⟩
      rw [← names, states_eq]
      rfl

/-- A blueprint that passes each phase is built from its rows and its start. -/
theorem build_eq_assemble
    {b : Blueprint ω D}
    {rows : List Row}
    {start : StateId}
    (hempty : b.declarations ≠ [])
    (hacronym : ∀ name ∈ b.names, acronym name ≠ "")
    (hnodup : (b.names.map acronym).Nodup)
    (hrows : b.declarations.mapIdx b.rowAt? = rows.map some)
    (hstart : b.start? = some start)
    (hproblems : Binding.problems b.settings b.handlers (b.names.zip rows) = []) :
    b.build = .ok (b.assemble rows start) :=
  (build_eq_ok_iff b _).2
    ⟨hempty, fun name hname => (acronym_ne_empty_iff name).1 (hacronym name hname), hnodup,
      rows, start, hrows, hstart, hproblems, rfl⟩

/-! ### The states of a built machine -/

theorem start?_lt
    {b : Blueprint ω D}
    (hempty : b.declarations ≠ [])
    {start : StateId}
    (hstart : b.start? = some start) :
    start < b.declarations.length := by
  unfold start? at hstart
  cases htoken : b.start with
  | none =>
      simp [htoken] at hstart
      subst start
      exact List.length_pos_iff.2 hempty
  | some token =>
      simp only [htoken] at hstart
      simpa [names] using position?_lt hstart

theorem targets_of_rowAt?_lt
    {b : Blueprint ω D}
    {position : Nat}
    {d : Declaration}
    {row : Row}
    (hrow : b.rowAt? position d = some row) :
    ∀ target ∈ row.targets, target < b.declarations.length := by
  unfold rowAt? at hrow
  cases hparse : Code.parse d.code with
  | error reason =>
      simp [hparse] at hrow
  | ok code =>
      simp only [hparse] at hrow
      refine Code.targets_of_row?_lt ?_ hrow
      intro token id hid
      simpa [names] using position?_lt hid

section Built

variable {b : Blueprint ω D} {m : Machine ω D}

theorem length_states_of_build
    (hbuild : b.build = .ok m) :
    m.states.length = b.declarations.length := by
  obtain ⟨-, -, -, rows, start, hrows, -, -, rfl⟩ := (build_eq_ok_iff b m).1 hbuild
  have hlen := (mapIdx_eq_map_iff.1 hrows).1
  simp [assemble, hlen]

/-- A state of a built machine is a declaration together with its row. -/
theorem state_of_build
    (hbuild : b.build = .ok m)
    {p : Nat}
    {d : Declaration}
    (hd : b.declarations[p]? = some d) :
    ∃ row, b.rowAt? p d = some row ∧ m.states[p]? = some (b.stateOf p d row) := by
  obtain ⟨-, -, -, rows, start, hrows, -, -, rfl⟩ := (build_eq_ok_iff b m).1 hbuild
  obtain ⟨row, hget, hrow⟩ := exists_row_of_rows hrows hd
  refine ⟨row, hrow, ?_⟩
  simp [assemble, List.getElem?_zip_eq_some, hd, hget]

/-- Every state of a built machine comes from a declaration. -/
theorem exists_declaration_of_build
    (hbuild : b.build = .ok m)
    {p : Nat}
    {s : State ω D}
    (hs : m.states[p]? = some s) :
    ∃ d row, b.declarations[p]? = some d ∧ b.rowAt? p d = some row ∧
      s = b.stateOf p d row := by
  have hlt : p < b.declarations.length := by
    rw [← length_states_of_build hbuild]
    exact (List.getElem?_eq_some_iff.1 hs).1
  have hd := List.getElem?_eq_getElem hlt
  obtain ⟨row, hrow, hs'⟩ := state_of_build hbuild hd
  rw [hs] at hs'
  exact ⟨_, row, hd, hrow, Option.some.inj hs'⟩

/-- The handlers of a built machine fit its states. -/
theorem fits_of_build
    (hbuild : b.build = .ok m)
    {p : Nat}
    {d : Declaration}
    {row : Row}
    (hd : b.declarations[p]? = some d)
    (hrow : b.rowAt? p d = some row) :
    Binding.Fits b.settings d.name row.kind
      (b.handlers.lookup (handlerName d.name)) := by
  obtain ⟨-, -, -, rows, start, hrows, -, hproblems, rfl⟩ :=
    (build_eq_ok_iff b m).1 hbuild
  obtain ⟨row', hget, hrow'⟩ := exists_row_of_rows hrows hd
  cases hrow.symm.trans hrow'
  have hzip : (b.names.zip rows)[p]? = some (d.name, row) := by
    simp [List.getElem?_zip_eq_some, names, hd, hget]
  exact ((Binding.problems_eq_nil_iff _ _ _).1 hproblems).2.2.1 _
    (List.mem_of_getElem? hzip)

theorem wellFormed_of_build
    (hbuild : b.build = .ok m) :
    m.WellFormed := by
  have hstates : ∀ s ∈ m.states, ∃ p d row, b.declarations[p]? = some d ∧
      b.rowAt? p d = some row ∧ s = b.stateOf p d row := by
    intro s hs
    obtain ⟨p, hp⟩ := List.mem_iff_getElem?.1 hs
    exact ⟨p, exists_declaration_of_build hbuild hp⟩
  have hlen := length_states_of_build hbuild
  refine ⟨?_, ?_, ?_, ?_⟩
  · rw [hlen]
    obtain ⟨hempty, -, -, rows, start, -, hstart, -, rfl⟩ :=
      (build_eq_ok_iff b m).1 hbuild
    exact start?_lt hempty hstart
  · intro s hs target htarget
    obtain ⟨p, d, row, -, hrow, rfl⟩ := hstates s hs
    rw [hlen]
    exact targets_of_rowAt?_lt hrow target htarget
  · intro s hs hterminal
    obtain ⟨p, d, row, -, -, rfl⟩ := hstates s hs
    simp only [stateOf] at hterminal ⊢
    rw [hterminal, Binding.slot_terminal]
  · intro s hs hterminal
    obtain ⟨p, d, row, hd, hrow, rfl⟩ := hstates s hs
    have hfits := fits_of_build hbuild hd hrow
    simp only [stateOf] at hterminal ⊢
    cases row with
    | terminal =>
        exact absurd rfl hterminal
    | action next =>
        simpa [Binding.Fits, Row.kind] using hfits
    | decision onTrue onFalse =>
        simpa [Binding.Fits, Row.kind] using hfits

/-- The handler of a state is the one that is registered under its handler name. -/
theorem handler?_of_build
    (hbuild : b.build = .ok m)
    {p : Nat}
    {d : Declaration}
    (hd : b.declarations[p]? = some d) :
    m.handler? p = b.handlers.lookup (handlerName d.name) := by
  obtain ⟨row, hrow, hs⟩ := state_of_build hbuild hd
  rw [Machine.handler?, hs, Option.bind_some]
  exact (fits_of_build hbuild hd hrow).slot_eq

/-- Every handler of a built machine is registered under the handler name of its
state. -/
theorem registered_of_build
    (hbuild : b.build = .ok m)
    {p : Nat}
    {h : Handler ω D}
    (hh : m.handler? p = some h) :
    (handlerName (m.label p), h) ∈ b.handlers := by
  obtain ⟨s, hs, -⟩ := Option.bind_eq_some_iff.1 hh
  obtain ⟨d, row, hd, -, rfl⟩ := exists_declaration_of_build hbuild hs
  have hlabel : m.label p = d.name := by
    simp [Machine.label, Machine.nameOf?, hs, stateOf]
  obtain ⟨-, -, -, _, _, -, -, hproblems, -⟩ := (build_eq_ok_iff b m).1 hbuild
  have hnodup := ((Binding.problems_eq_nil_iff _ _ _).1 hproblems).1
  rw [handler?_of_build hbuild hd] at hh
  rw [hlabel]
  exact (Entries.lookup_eq_some_iff_mem hnodup _ _).1 hh

theorem exists_registered_of_build
    (hbuild : b.build = .ok m)
    {p : Nat}
    {h : Handler ω D}
    (hh : m.handler? p = some h) :
    ∃ name, (name, h) ∈ b.handlers :=
  ⟨_, registered_of_build hbuild hh⟩

/-- What holds of every registered handler holds of every handler of the machine. -/
theorem forall_handler_of_build
    {P : Handler ω D → Prop}
    (hbuild : b.build = .ok m)
    (hall : ∀ r ∈ b.handlers, P r.2) :
    ∀ p h, m.handler? p = some h → P h :=
  fun _ _ hh => hall _ (registered_of_build hbuild hh)

/-- The states of a built machine have the declared names. -/
theorem nameOf?_of_build
    (hbuild : b.build = .ok m)
    (p : StateId) :
    m.nameOf? p = b.names[p]? := by
  cases hd : b.declarations[p]? with
  | some d =>
      obtain ⟨row, -, hs⟩ := state_of_build hbuild hd
      simp [Machine.nameOf?, names, hs, hd, stateOf]
  | none =>
      have hlen : m.states.length ≤ p := by
        rw [length_states_of_build hbuild]
        exact List.getElem?_eq_none_iff.1 hd
      simp [Machine.nameOf?, names, hd, List.getElem?_eq_none hlen]

theorem stateNames_of_build
    (hbuild : b.build = .ok m) :
    m.stateNames = b.names := by
  apply List.ext_getElem?
  intro p
  rw [← nameOf?_of_build hbuild, Machine.stateNames, List.getElem?_map]
  rfl

/-- No two states of a built machine have the same name. -/
theorem id_eq_of_nameOf?
    (hbuild : b.build = .ok m)
    {p q : StateId}
    {name : String}
    (hp : m.nameOf? p = some name)
    (hq : m.nameOf? q = some name) :
    p = q := by
  obtain ⟨-, -, hnodup, -⟩ := (build_eq_ok_iff b m).1 hbuild
  rw [nameOf?_of_build hbuild] at hp hq
  exact position_unique hnodup hp hq (.inr rfl) (.inr rfl)

/-- What a step in a terminal state does plays no part in building. -/
theorem build_of_terminalStep
    (hbuild : b.build = .ok m)
    (policy : TerminalPolicy) :
    { b with settings := { b.settings with terminalStep := policy } }.build =
      .ok { m with settings := { b.settings with terminalStep := policy } } := by
  obtain ⟨hempty, hcapital, hnodup, rows, start, hrows, hstart, hproblems, rfl⟩ :=
    (build_eq_ok_iff b m).1 hbuild
  have hfits := (Binding.problems_eq_nil_iff _ _ _).1 hproblems
  refine (build_eq_ok_iff _ _).2
    ⟨hempty, hcapital, hnodup, rows, start, hrows, hstart, ?_, rfl⟩
  exact (Binding.problems_eq_nil_iff _ _ _).2 hfits

end Built

/-! ### A small machine -/

/-- Counts up until three is reached.  The surroundings count the calls. -/
def retry : Blueprint Nat Nat where
  name := "Retry"
  declarations := [⟨"Init", ""⟩, ⟨"Check", "F->I"⟩, ⟨"Done", "0"⟩]
  handlers :=
    [("init", .action fun calls n => (calls + 1, n + 1, .ok ())),
      ("check", .decision fun calls n => (calls + 1, .ok (decide (3 ≤ n))))]

/-- The machine that counts up until three is reached. -/
def retryMachine : Machine Nat Nat :=
  retry.assemble [.action 1, .decision 2 0, .terminal] 0

theorem build_retry :
    retry.build = .ok retryMachine :=
  build_eq_assemble (by simp [retry]) (by decide +kernel) (by decide +kernel)
    (by decide +kernel) rfl (List.isEmpty_iff.1 (by decide +kernel))

/-- The small machine where steps in its terminal state are ignored. -/
def lenient : Blueprint Nat Nat :=
  { retry with settings := { terminalStep := .ignore } }

def lenientMachine : Machine Nat Nat :=
  { retryMachine with settings := { terminalStep := .ignore } }

theorem build_lenient :
    lenient.build = .ok lenientMachine :=
  build_of_terminalStep build_retry .ignore

end Blueprint
end Flowchart

import Flowchart.Proofs.Build
import Mathlib.Data.Set.List

/-!
# What can be built

A blueprint is valid if ten conditions hold, each of which speaks of the
declarations and the registered handlers only.  Building accepts exactly the valid
blueprints, whatever the order in which the phases look for faults, and the built
machine has the registered handlers at their states.
-/

namespace Flowchart
namespace Blueprint

variable {ω D : Type}

/-- Whether a token is the acronym or the name of a declared state. -/
def Declares (b : Blueprint ω D) (token : String) : Prop :=
  ∃ name ∈ b.names, Addresses token name

/-- Whether the code of a state can be used at its position. -/
def Compiles (b : Blueprint ω D) (position : Nat) (d : Declaration) : Prop :=
  ∃ code, Code.parse d.code = .ok code ∧
    (∀ token ∈ code.tokens, b.Declares token) ∧
    (code.NeedsSuccessor → position + 1 < b.declarations.length)

/-- Whether the code of a state makes it one of the given kind at its position. -/
def HasKind (b : Blueprint ω D) (position : Nat) (d : Declaration)
    (kind : Kind) : Prop :=
  ∃ code, Code.parse d.code = .ok code ∧
    code.kindAt position b.declarations.length = kind

/-- What a blueprint must satisfy to become a machine. -/
structure Valid (b : Blueprint ω D) : Prop where
  declared : b.declarations ≠ []
  capital : ∀ name ∈ b.names, ∃ c ∈ name.toList, Text.isUppercase c = true
  acronyms_nodup : (b.names.map acronym).Nodup
  compiles : ∀ p d, b.declarations[p]? = some d → b.Compiles p d
  start_declared : ∀ token, b.start = some token → b.Declares token
  registered_nodup : (b.handlers.map Prod.fst).Nodup
  handlerNames_nodup : (b.names.map handlerName).Nodup
  served : ∀ p d kind, b.declarations[p]? = some d → b.HasKind p d kind →
    kind ≠ .terminal → ∃ h, (handlerName d.name, h) ∈ b.handlers ∧ h.kind = kind
  terminal_unserved : ∀ p d, b.declarations[p]? = some d → b.HasKind p d .terminal →
    ∀ h, (handlerName d.name, h) ∉ b.handlers
  terminal_ending : ∀ p d, b.declarations[p]? = some d → b.HasKind p d .terminal →
    b.settings.isTerminalName d.name = true
  registered_declared : ∀ r ∈ b.handlers, ∃ name ∈ b.names, handlerName name = r.1

/-! ### The conditions one by one -/

theorem declares_iff
    (b : Blueprint ω D)
    (token : String) :
    b.Declares token ↔ ∃ id, position? b.names token = some id := by
  rw [position?, ← Option.isSome_iff_exists, List.findIdx?_isSome, List.any_eq_true]
  simp [Declares]

theorem compiles_iff
    (b : Blueprint ω D)
    (position : Nat)
    (d : Declaration) :
    b.Compiles position d ↔ ∃ row, b.rowAt? position d = some row := by
  unfold Compiles rowAt?
  simp only [declares_iff]
  cases Code.parse d.code with
  | error reason =>
      simp
  | ok code =>
      simp [Code.exists_row?_iff]

theorem start_declared_iff
    (b : Blueprint ω D) :
    (∀ token, b.start = some token → b.Declares token) ↔
      ∃ start, b.start? = some start := by
  unfold start?
  cases b.start with
  | none =>
      simp
  | some token =>
      simp [declares_iff]

/-- The kind of a state is that of its row. -/
theorem hasKind_iff
    {b : Blueprint ω D}
    {position : Nat}
    {d : Declaration}
    {row : Row}
    (hrow : b.rowAt? position d = some row)
    (kind : Kind) :
    b.HasKind position d kind ↔ row.kind = kind := by
  unfold rowAt? at hrow
  unfold HasKind
  cases hparse : Code.parse d.code with
  | error reason =>
      simp [hparse] at hrow
  | ok code =>
      simp only [hparse] at hrow
      simp [Code.kind_of_row? hrow]

/-- All states have rows exactly if all codes compile. -/
theorem exists_rows_iff
    (b : Blueprint ω D) :
    (∃ rows : List Row, b.declarations.mapIdx b.rowAt? = rows.map some) ↔
      ∀ p d, b.declarations[p]? = some d → b.Compiles p d := by
  simp only [compiles_iff]
  constructor
  · rintro ⟨rows, hrows⟩ p d hd
    obtain ⟨row, -, hrow⟩ := exists_row_of_rows hrows hd
    exact ⟨row, hrow⟩
  · intro hall
    have hmem : b.declarations.mapIdx b.rowAt? ∈ Set.range (List.map some) := by
      rw [Set.range_list_map]
      intro found hfound
      obtain ⟨p, hp, rfl⟩ := List.mem_mapIdx.1 hfound
      obtain ⟨row, hrow⟩ := hall p _ (List.getElem?_eq_getElem hp)
      exact ⟨row, hrow.symm⟩
    obtain ⟨rows, hrows⟩ := hmem
    exact ⟨rows, hrows.symm⟩

/-- The named rows of a blueprint are its declarations with the rows of their
codes. -/
theorem mem_zip_rows_iff
    {b : Blueprint ω D}
    {rows : List Row}
    (hrows : b.declarations.mapIdx b.rowAt? = rows.map some)
    (s : String × Row) :
    s ∈ b.names.zip rows ↔
      ∃ p d, b.declarations[p]? = some d ∧ b.rowAt? p d = some s.2 ∧
        d.name = s.1 := by
  rw [List.mem_iff_getElem?]
  simp only [List.getElem?_zip_eq_some, names, List.getElem?_map,
    Option.map_eq_some_iff]
  constructor
  · rintro ⟨p, ⟨d, hd, hname⟩, hrow⟩
    obtain ⟨row, hget, hrow'⟩ := exists_row_of_rows hrows hd
    cases hrow.symm.trans hget
    exact ⟨p, d, hd, hrow', hname⟩
  · rintro ⟨p, d, hd, hrow, hname⟩
    obtain ⟨row, hget, hrow'⟩ := exists_row_of_rows hrows hd
    exact ⟨p, ⟨d, hd, hname⟩, by rw [hget, ← hrow', hrow]⟩

/-- What a state asks for, by its kind. -/
theorem fits_iff
    {b : Blueprint ω D}
    (hnodup : (b.handlers.map Prod.fst).Nodup)
    {position : Nat}
    {d : Declaration}
    {row : Row}
    (hrow : b.rowAt? position d = some row) :
    Binding.Fits b.settings d.name row.kind
        (b.handlers.lookup (handlerName d.name)) ↔
      (∀ kind, b.HasKind position d kind → kind ≠ .terminal →
        ∃ h, (handlerName d.name, h) ∈ b.handlers ∧ h.kind = kind) ∧
      (b.HasKind position d .terminal →
        ∀ h, (handlerName d.name, h) ∉ b.handlers) ∧
      (b.HasKind position d .terminal →
        b.settings.isTerminalName d.name = true) := by
  simp only [hasKind_iff hrow, ← Entries.lookup_eq_some_iff_mem hnodup]
  unfold Binding.Fits
  split_ifs with hterminal
  · simp [hterminal, Option.eq_none_iff_forall_ne_some]
  · simp [hterminal]

/-- Handlers and states fit exactly if the conditions on handlers hold. -/
theorem problems_eq_nil_iff_of_rows
    {b : Blueprint ω D}
    {rows : List Row}
    (hrows : b.declarations.mapIdx b.rowAt? = rows.map some) :
    Binding.problems b.settings b.handlers (b.names.zip rows) = [] ↔
      (b.handlers.map Prod.fst).Nodup ∧
      (b.names.map handlerName).Nodup ∧
      (∀ p d row, b.declarations[p]? = some d → b.rowAt? p d = some row →
        Binding.Fits b.settings d.name row.kind
          (b.handlers.lookup (handlerName d.name))) ∧
      ∀ r ∈ b.handlers, ∃ name ∈ b.names, handlerName name = r.1 := by
  have hlen : b.names.length ≤ rows.length := by
    simp [names, (mapIdx_eq_map_iff.1 hrows).1]
  have hfst : (b.names.zip rows).map Prod.fst = b.names := List.map_fst_zip hlen
  have hnames : (b.names.zip rows).map (fun s => handlerName s.1) =
      b.names.map handlerName := by
    conv => rhs; rw [← hfst, List.map_map]
    rfl
  have hstates : ∀ key, (∃ s ∈ b.names.zip rows, handlerName s.1 = key) ↔
      ∃ name ∈ b.names, handlerName name = key := by
    intro key
    conv => rhs; rw [← hfst]
    simp
  rw [Binding.problems_eq_nil_iff, hnames]
  simp only [hstates]
  simp only [mem_zip_rows_iff hrows]
  constructor
  · rintro ⟨hkeys, hnodup, hfits, hall⟩
    exact ⟨hkeys, hnodup,
      fun p d row hd hrow => hfits (d.name, row) ⟨p, d, hd, hrow, rfl⟩, hall⟩
  · rintro ⟨hkeys, hnodup, hfits, hall⟩
    refine ⟨hkeys, hnodup, ?_, hall⟩
    rintro ⟨name, row⟩ ⟨p, d, hd, hrow, rfl⟩
    exact hfits p d row hd hrow

/-- A blueprint builds exactly if each phase can find what it looks for. -/
theorem exists_build_iff
    (b : Blueprint ω D) :
    (∃ m, b.build = .ok m) ↔
      b.declarations ≠ [] ∧
      (∀ name ∈ b.names, ∃ c ∈ name.toList, Text.isUppercase c = true) ∧
      (b.names.map acronym).Nodup ∧
      (∃ start, b.start? = some start) ∧
      ∃ rows : List Row,
        b.declarations.mapIdx b.rowAt? = rows.map some ∧
        Binding.problems b.settings b.handlers (b.names.zip rows) = [] := by
  simp only [build_eq_ok_iff]
  constructor
  · rintro ⟨m, hne, hcapital, hnodup, rows, start, hrows, hstart, hproblems, -⟩
    exact ⟨hne, hcapital, hnodup, ⟨start, hstart⟩, rows, hrows, hproblems⟩
  · rintro ⟨hne, hcapital, hnodup, ⟨start, hstart⟩, rows, hrows, hproblems⟩
    exact ⟨_, hne, hcapital, hnodup, rows, start, hrows, hstart, hproblems, rfl⟩

/-- What can be built is valid. -/
theorem valid_of_build
    {b : Blueprint ω D}
    {m : Machine ω D}
    (hbuild : b.build = .ok m) :
    b.Valid := by
  obtain ⟨hne, hcapital, hnodup, hstart, rows, hrows, hproblems⟩ :=
    (exists_build_iff b).1 ⟨m, hbuild⟩
  obtain ⟨hkeys, hhandlers, hfits, hregistered⟩ :=
    (problems_eq_nil_iff_of_rows hrows).1 hproblems
  have hcompiles := (exists_rows_iff b).1 ⟨rows, hrows⟩
  have hconditions : ∀ p d, b.declarations[p]? = some d →
      (∀ kind, b.HasKind p d kind → kind ≠ .terminal →
        ∃ h, (handlerName d.name, h) ∈ b.handlers ∧ h.kind = kind) ∧
      (b.HasKind p d .terminal → ∀ h, (handlerName d.name, h) ∉ b.handlers) ∧
      (b.HasKind p d .terminal → b.settings.isTerminalName d.name = true) := by
    intro p d hd
    obtain ⟨row, hrow⟩ := (b.compiles_iff p d).1 (hcompiles p d hd)
    exact (fits_iff hkeys hrow).1 (hfits p d row hd hrow)
  exact
    { declared := hne
      capital := hcapital
      acronyms_nodup := hnodup
      compiles := hcompiles
      start_declared := b.start_declared_iff.2 hstart
      registered_nodup := hkeys
      handlerNames_nodup := hhandlers
      served := fun p d kind hd => (hconditions p d hd).1 kind
      terminal_unserved := fun p d hd => (hconditions p d hd).2.1
      terminal_ending := fun p d hd => (hconditions p d hd).2.2
      registered_declared := hregistered }

/-- What is valid can be built. -/
theorem Valid.exists_build
    {b : Blueprint ω D}
    (h : b.Valid) :
    ∃ m, b.build = .ok m := by
  obtain ⟨rows, hrows⟩ := (exists_rows_iff b).2 h.compiles
  refine
    (exists_build_iff b).2
      ⟨h.declared, h.capital, h.acronyms_nodup,
        b.start_declared_iff.1 h.start_declared, rows, hrows, ?_⟩
  refine
    (problems_eq_nil_iff_of_rows hrows).2
      ⟨h.registered_nodup, h.handlerNames_nodup, ?_, h.registered_declared⟩
  intro p d row hd hrow
  exact
    (fits_iff h.registered_nodup hrow).2
      ⟨fun kind => h.served p d kind hd, h.terminal_unserved p d hd,
        h.terminal_ending p d hd⟩

/-- Exactly the states that are not terminal have handlers. -/
theorem handler?_eq_none_iff_of_build
    {b : Blueprint ω D}
    {m : Machine ω D}
    (hbuild : b.build = .ok m)
    {p : Nat}
    {d : Declaration}
    (hd : b.declarations[p]? = some d) :
    m.handler? p = none ↔ m.kind? p = some .terminal := by
  obtain ⟨row, hrow, hs⟩ := state_of_build hbuild hd
  have hfits := fits_of_build hbuild hd hrow
  rw [handler?_of_build hbuild hd]
  simp only [Machine.kind?, Machine.row?, hs, Option.map_some, Option.some.injEq,
    stateOf]
  unfold Binding.Fits at hfits
  split_ifs at hfits with hterminal
  · simp [hterminal, hfits.1]
  · obtain ⟨h, hh, -⟩ := hfits
    simp [hterminal, hh]

/-- Building accepts exactly the valid blueprints, and puts the handler that is
registered for a state at its position, and none exactly at a terminal state. -/
theorem build_accepts_iff_valid
    (b : Blueprint ω D) :
    ((∃ m, b.build = .ok m) ↔ b.Valid) ∧
    ∀ m, b.build = .ok m →
      ∀ p d, b.declarations[p]? = some d →
        (∀ h, m.handler? p = some h ↔ (handlerName d.name, h) ∈ b.handlers) ∧
        (m.handler? p = none ↔ m.kind? p = some .terminal) := by
  refine ⟨⟨?_, Valid.exists_build⟩, ?_⟩
  · rintro ⟨m, hbuild⟩
    exact valid_of_build hbuild
  · intro m hbuild p d hd
    have hkeys := (valid_of_build hbuild).registered_nodup
    refine ⟨?_, handler?_eq_none_iff_of_build hbuild hd⟩
    intro h
    rw [handler?_of_build hbuild hd, Entries.lookup_eq_some_iff_mem hkeys]

/-- The small machine is built from a valid blueprint, and its last state alone has
no handler. -/
theorem valid_retry :
    retry.Valid ∧
    retryMachine.handler? 2 = none ∧
    ∃ h, retryMachine.handler? 1 = some h ∧ ("check", h) ∈ retry.handlers := by
  obtain ⟨haccepts, hhandlers⟩ := build_accepts_iff_valid retry
  have hcheck := (hhandlers retryMachine build_retry 1 ⟨"Check", "F->I"⟩ rfl).1
  have hdone := (hhandlers retryMachine build_retry 2 ⟨"Done", "0"⟩ rfl).2
  have hname : handlerName "Check" = "check" := by
    decide +kernel
  refine ⟨haccepts.1 ⟨_, build_retry⟩, hdone.2 rfl, _, rfl, ?_⟩
  rw [← hname]
  exact (hcheck _).1 rfl

end Blueprint
end Flowchart

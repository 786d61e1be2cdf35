import Flowchart.Proofs.Reading

/-!
# Interpreting codes directly

The interpreter keeps a position and the data.  At each step it reads the code of
the state anew and calls the handler that is registered for it.  It knows neither
rows nor books, and always has the same surroundings, so it stands for a built
machine only if the handlers are deterministic.

Under this condition the steps of a built machine are those of the interpreter.
One step is compared for each way in which it may end, and runs by induction on
their length.
-/

namespace Flowchart

variable {ω D : Type}

/-- What the interpreter keeps of a run. -/
structure Configuration (D : Type) where
  position : StateId
  data : D

/-- What an instance has in common with the interpreter. -/
def Instance.configuration (i : Instance ω D) : Configuration D :=
  ⟨i.current, i.data⟩

/-- The first steps of an instance: what each did and what it led to. -/
def Machine.trace (m : Machine ω D) :
    Nat → Instance ω D → List (Configuration D × Except RunError StepResult)
  | 0, _ => []
  | count + 1, i =>
      ((m.step i).1.configuration, (m.step i).2) :: trace m count (m.step i).1

namespace Blueprint

/-- What a step does where a code halts. -/
def haltResult (b : Blueprint ω D) (position : StateId) (name : String) :
    Except RunError StepResult :=
  match b.settings.terminalStep with
  | .ignore => .ok (.halted position)
  | .reject => .error (.terminalStep b.name name)

/-- Does what a code tells to do, unless there is no handler or no target. -/
def follow (b : Blueprint ω D) (w : ω) (c : Configuration D) (name : String) :
    Reading → Option (Configuration D × Except RunError StepResult)
  | .halt => some (c, b.haltResult c.position name)
  | .act target => do
      let h ← b.handlers.lookup (handlerName name)
      match (h.runAction w c.data).2 with
      | (data, .ok ()) =>
          let id ← target
          some (⟨id, data⟩, .ok (.advanced c.position id none))
      | (data, .error failure) =>
          some (⟨c.position, data⟩, .error (.handlerFailed name failure))
  | .ask target => do
      let h ← b.handlers.lookup (handlerName name)
      match (h.evaluate w c.data).2 with
      | .ok outcome =>
          let id ← target outcome
          some (⟨id, c.data⟩, .ok (.advanced c.position id (some outcome)))
      | .error failure =>
          some (c, .error (.handlerFailed name failure))

/-- One step of the interpreter. -/
def interpretStep (b : Blueprint ω D) (w : ω) (c : Configuration D) :
    Option (Configuration D × Except RunError StepResult) := do
  let d ← b.declarations[c.position]?
  b.follow w c d.name (Reading.read b.names c.position d.code)

/-- The first steps of the interpreter from a configuration. -/
def interpretSteps (b : Blueprint ω D) (w : ω) :
    Nat → Configuration D → Option (List (Configuration D × Except RunError StepResult))
  | 0, _ => some []
  | count + 1, c => do
      let next ← b.interpretStep w c
      let rest ← interpretSteps b w count next.1
      some (next :: rest)

/-- The first steps of the interpreter from the start. -/
def interpret (b : Blueprint ω D) (w : ω) (count : Nat) (data : D) :
    Option (List (Configuration D × Except RunError StepResult)) := do
  let start ← b.start?
  b.interpretSteps w count ⟨start, data⟩

section Refinement

variable {b : Blueprint ω D} {m : Machine ω D}

/-- A position of a built machine, seen from the blueprint. -/
theorem exists_position_of_build
    (hbuild : b.build = .ok m)
    {p : StateId}
    (hlt : p < m.states.length) :
    ∃ d row,
      b.declarations[p]? = some d ∧
      Reading.read b.names p d.code = Reading.ofRow row ∧
      m.row? p = some row ∧
      m.label p = d.name := by
  rw [length_states_of_build hbuild] at hlt
  have hd := List.getElem?_eq_getElem hlt
  obtain ⟨row, hrow, hs⟩ := state_of_build hbuild hd
  refine ⟨_, row, hd, Reading.read_eq_ofRow hd hrow, ?_, ?_⟩
  · simp [Machine.row?, hs, stateOf]
  · simp [Machine.label, Machine.nameOf?, hs, stateOf]

/-- A handler that both the machine and the interpreter call at a position. -/
structure Serves (b : Blueprint ω D) (m : Machine ω D) (p : StateId)
    (h : Handler ω D) : Prop where
  handler_eq : m.handler? p = some h
  lookup_eq : b.handlers.lookup (handlerName (m.label p)) = some h
  deterministic : h.Deterministic

/-- A state of a built machine that is not terminal is served. -/
theorem exists_serves_of_build
    (hbuild : b.build = .ok m)
    (hdet : ∀ r ∈ b.handlers, r.2.Deterministic)
    {p : StateId}
    {row : Row}
    (hrow : m.row? p = some row)
    (hkind : row ≠ .terminal) :
    ∃ h, Serves b m p h := by
  obtain ⟨s, hs, rfl⟩ := Option.map_eq_some_iff.1 hrow
  have hmem := List.mem_of_getElem? hs
  obtain ⟨h, hh, -⟩ := (wellFormed_of_build hbuild).handler_kind s hmem hkind
  have hhandler : m.handler? p = some h := by
    simp [Machine.handler?, hs, hh]
  have hregistered := registered_of_build hbuild hhandler
  obtain ⟨d, row, hd, -, rfl⟩ := exists_declaration_of_build hbuild hs
  refine ⟨h, hhandler, ?_, hdet _ hregistered⟩
  rw [← hhandler, handler?_of_build hbuild hd]
  simp [Machine.label, Machine.nameOf?, hs, stateOf]

/-- A step in a terminal state is one at a code that halts. -/
theorem terminalStep_of_build
    (hbuild : b.build = .ok m)
    (i : Instance ω D) :
    m.terminalStep i = b.haltResult i.current (m.label i.current) := by
  obtain ⟨-, -, -, rows, start, -, -, -, rfl⟩ := (build_eq_ok_iff b m).1 hbuild
  rfl

namespace Serves

variable {i j : Instance ω D} {h : Handler ω D} {w : ω} {data : D}

theorem follow_of_acted
    (hs : Serves b m i.current h)
    (hrun : m.runAction i = (i.withEffect w data, .ok ()))
    (w₀ : ω)
    (next : StateId) :
    b.follow w₀ i.configuration (m.label i.current) (.act (some next)) =
      some (⟨next, data⟩, .ok (.advanced i.current next none)) := by
  obtain ⟨answer, hanswer, hresult⟩ := Machine.runAction_answer hs.handler_eq hrun
  rw [hs.deterministic.runAction _ w₀] at hanswer
  cases answer with
  | ok _ =>
      simp [follow, hs.lookup_eq, Instance.configuration, hanswer]
  | error failure =>
      cases hresult

theorem follow_of_actionFailed
    {e : RunError}
    (hs : Serves b m i.current h)
    (hrun : m.runAction i = (i.withEffect w data, .error e))
    (w₀ : ω)
    (next : StateId) :
    b.follow w₀ i.configuration (m.label i.current) (.act (some next)) =
      some (⟨i.current, data⟩, .error e) := by
  obtain ⟨answer, hanswer, hresult⟩ := Machine.runAction_answer hs.handler_eq hrun
  rw [hs.deterministic.runAction _ w₀] at hanswer
  cases answer with
  | ok _ =>
      cases hresult
  | error failure =>
      cases Except.error.inj hresult
      simp [follow, hs.lookup_eq, Instance.configuration, hanswer, Machine.failed]

theorem follow_of_decided
    {outcome : Bool}
    (hs : Serves b m i.current h)
    (hask : m.evaluate i = (j, .ok outcome))
    (w₀ : ω)
    (target : Bool → StateId) :
    b.follow w₀ i.configuration (m.label i.current)
        (.ask fun outcome => some (target outcome)) =
      some (⟨target outcome, i.data⟩,
        .ok (.advanced i.current (target outcome) (some outcome))) := by
  have hresult := Machine.evaluate_answer hs.handler_eq hask
  rw [hs.deterministic.evaluate _ w₀] at hresult
  cases hanswer : (h.evaluate w₀ i.data).2 with
  | ok answer =>
      simp only [hanswer, Machine.mapError_ok, Except.ok.injEq] at hresult
      simp [follow, hs.lookup_eq, Instance.configuration, hanswer, hresult]
  | error failure =>
      simp [hanswer] at hresult

theorem follow_of_decisionFailed
    {e : RunError}
    (hs : Serves b m i.current h)
    (hask : m.evaluate i = (j, .error e))
    (w₀ : ω)
    (target : Bool → StateId) :
    b.follow w₀ i.configuration (m.label i.current)
        (.ask fun outcome => some (target outcome)) =
      some (i.configuration, .error e) := by
  have hresult := Machine.evaluate_answer hs.handler_eq hask
  rw [hs.deterministic.evaluate _ w₀] at hresult
  cases hanswer : (h.evaluate w₀ i.data).2 with
  | ok answer =>
      simp [hanswer] at hresult
  | error failure =>
      simp only [hanswer, Machine.mapError_error, Except.error.injEq] at hresult
      simp [follow, hs.lookup_eq, Instance.configuration, hanswer, hresult,
        Machine.failed]

end Serves

/-- Every way in which a step without rules ends is that of the interpreter. -/
theorem interpretStep_of_advance
    (hbuild : b.build = .ok m)
    (hdet : ∀ r ∈ b.handlers, r.2.Deterministic)
    (w₀ : ω)
    {i j : Instance ω D}
    {result : Except RunError StepResult}
    (hlt : i.current < m.states.length)
    (hrules : i.rules = {})
    (h : m.Advance none i j result) :
    b.interpretStep w₀ i.configuration = some (j.configuration, result) := by
  obtain ⟨d, row, hd, hread, hrow', hlabel⟩ := exists_position_of_build hbuild hlt
  have hstep : b.interpretStep w₀ i.configuration =
      b.follow w₀ i.configuration (m.label i.current) (Reading.ofRow row) := by
    simp [interpretStep, Instance.configuration, hd, hread, hlabel]
  rw [hstep]
  cases h with
  | stopped hrow =>
      simp only [hrow', Option.getD_some] at hrow
      rw [hrow, terminalStep_of_build hbuild]
      rfl
  | capped hrow hkind hcap =>
      rw [m.checkCap_of_no_rules hrules] at hcap
      cases hcap
  | actionFailed hrow hcap hrun =>
      obtain rfl := Option.some.inj (hrow.symm.trans hrow')
      obtain ⟨handler, hs⟩ := exists_serves_of_build hbuild hdet hrow (by simp)
      exact hs.follow_of_actionFailed hrun w₀ _
  | acted hrow hcap hrun =>
      obtain rfl := Option.some.inj (hrow.symm.trans hrow')
      obtain ⟨handler, hs⟩ := exists_serves_of_build hbuild hdet hrow (by simp)
      exact hs.follow_of_acted hrun w₀ _
  | decisionFailed hrow hcap hask =>
      obtain rfl := Option.some.inj (hrow.symm.trans hrow')
      obtain ⟨handler, hs⟩ := exists_serves_of_build hbuild hdet hrow (by simp)
      exact hs.follow_of_decisionFailed hask w₀ _
  | decided hrow hcap hask =>
      obtain rfl := Option.some.inj (hrow.symm.trans hrow')
      obtain ⟨handler, hs⟩ := exists_serves_of_build hbuild hdet hrow (by simp)
      exact hs.follow_of_decided hask w₀ _

/-- The steps of an instance without rules are those of the interpreter. -/
theorem interpretSteps_eq_trace
    (hbuild : b.build = .ok m)
    (hdet : ∀ r ∈ b.handlers, r.2.Deterministic)
    (w₀ : ω)
    (count : Nat)
    {i : Instance ω D}
    (hlt : i.current < m.states.length)
    (hrules : i.rules = {}) :
    b.interpretSteps w₀ count i.configuration = some (m.trace count i) := by
  induction count generalizing i with
  | zero =>
      rfl
  | succ count ih =>
      have hadvance := m.advance_spec none i
      have hstep := interpretStep_of_advance hbuild hdet w₀ hlt hrules hadvance
      have hrest := ih
        (hadvance.current_lt (wellFormed_of_build hbuild) hlt)
        (hadvance.rules_eq.trans hrules)
      simp only [interpretSteps, hstep, hrest, Option.bind_eq_bind, Option.bind_some]
      rfl

theorem start?_of_build
    (hbuild : b.build = .ok m) :
    b.start? = some m.start := by
  obtain ⟨-, -, -, rows, start, -, hstart, -, rfl⟩ := (build_eq_ok_iff b m).1 hbuild
  exact hstart

/-- Whatever the surroundings, the steps of a built machine from its start are those
of the interpreter of its codes, if the handlers are deterministic. -/
theorem interpret_eq_trace
    (hbuild : b.build = .ok m)
    (hdet : ∀ r ∈ b.handlers, r.2.Deterministic)
    (w w₀ : ω)
    (data : D)
    (count : Nat) :
    b.interpret w₀ count data = some (m.trace count (m.newInstance w data)) := by
  have hlt := (wellFormed_of_build hbuild).start_lt
  unfold interpret
  rw [start?_of_build hbuild]
  exact interpretSteps_eq_trace (i := m.newInstance w data) hbuild hdet w₀ count hlt rfl

end Refinement

/-- The small machine goes round until the counter is three, and then halts. -/
theorem interpret_retry :
    retry.interpret 9 7 0 =
      some (retryMachine.trace 7 (retryMachine.newInstance 2 0)) ∧
    (retryMachine.trace 7 (retryMachine.newInstance 2 0)).map
      (fun entry => (entry.1.position, entry.1.data)) =
        [(1, 1), (0, 1), (1, 2), (0, 2), (1, 3), (2, 3), (2, 3)] := by
  have hdet : ∀ r ∈ retry.handlers, r.2.Deterministic := by
    simp [retry, Handler.Deterministic]
  exact ⟨interpret_eq_trace build_retry hdet 2 9 0 7, by decide +kernel⟩

end Blueprint
end Flowchart

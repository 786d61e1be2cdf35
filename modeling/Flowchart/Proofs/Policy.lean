import Flowchart.Proofs.Lockstep

/-!
# Settings do not steer runs

The settings of a machine say what a step does in a terminal state, whether a log is
kept and how diagrams look.  None of this matters to a run, since a run asks whether the
machine has halted before each of its steps.

A step from a state that can be left does what it does in the machine that keeps no log,
and makes a record perhaps.  That machine is the same for all settings, so two machines
that differ in their settings only are compared through it.
-/

namespace Flowchart

variable {ω D : Type}

/-- The instance without its log. -/
def Instance.unlogged (i : Instance ω D) : Instance ω D :=
  { i with log := {} }

/-- The operations that settings have no part in: steps before the machine has halted,
runs to a goal that can be told from the state, the counters, the data and the rules,
restarts, and edits of visit rules. -/
def Operation.Neutral (m : Machine ω D) (i : Instance ω D) : Operation ω D → Prop
  | step | replayStep _ => m.isComplete i = false
  | runUntil _ condition =>
      ∀ j j' : Instance ω D, j.SameStanding j' → condition j' = condition j
  | replay _ | setData _ _ | inject _ => False
  | _ => True

/-- Instances in the same standing, whose surroundings are related. -/
def Instance.Alongside (S : ω → ω → Prop) (i i' : Instance ω D) : Prop :=
  i.SameStanding i' ∧ S i.surroundings i'.surroundings

theorem Operation.Neutral.inStep
    {m : Machine ω D}
    {S : ω → ω → Prop}
    {i : Instance ω D}
    {op : Operation ω D}
    (h : op.Neutral m i) :
    op.InStep (fun i => m.isComplete i = false) (Instance.Alongside S) i := by
  cases op with
  | step | replayStep => exact h
  | runUntil bound condition => exact fun j j' hjj' => h j j' hjj'.1
  | replay | setData | inject => exact h.elim
  | _ => trivial

namespace Machine

/-- The machine that keeps no log, with all other settings at their defaults. -/
def unrecorded (m : Machine ω D) : Machine ω D :=
  m.withSettings { recordTransitions := false }

section Unrecorded

variable (m : Machine ω D) {i : Instance ω D}

theorem runAction_unrecorded
    (i : Instance ω D) :
    m.unrecorded.runAction i.unlogged =
      ((m.runAction i).1.unlogged, (m.runAction i).2) := by
  cases hh : m.handler? i.current with
  | none =>
      have hh' : m.unrecorded.handler? i.unlogged.current = none := hh
      simp only [runAction, hh, hh']
      rfl
  | some h =>
      have hh' : m.unrecorded.handler? i.unlogged.current = some h := hh
      rw [m.runAction_of_handler hh, m.unrecorded.runAction_of_handler hh']
      rfl

theorem branchOutcome_unrecorded
    (forced : Option Bool)
    (i : Instance ω D) :
    m.unrecorded.branchOutcome forced i.unlogged =
      ((m.branchOutcome forced i).1.unlogged, (m.branchOutcome forced i).2) := by
  cases forced with
  | some outcome =>
      rfl
  | none =>
      cases hh : m.handler? i.current with
      | none =>
          have hh' : m.unrecorded.handler? i.unlogged.current = none := hh
          simp only [branchOutcome, evaluate, hh, hh']
          rfl
      | some h =>
          have hh' : m.unrecorded.handler? i.unlogged.current = some h := hh
          rw [branchOutcome, branchOutcome, m.evaluate_of_handler hh,
            m.unrecorded.evaluate_of_handler hh']
          rfl

theorem commit_unrecorded
    (target : StateId)
    (branch : Option Bool)
    (i : Instance ω D) :
    m.unrecorded.commit target branch i.unlogged =
      (m.commit target branch i).unlogged := by
  rfl

/-- Where the machine has not halted, a step is that of the machine without a log, and a
record perhaps. -/
theorem advance_unrecorded
    (hopen : m.isComplete i = false)
    (forced : Option Bool) :
    m.unrecorded.advance forced i.unlogged =
      ((m.advance forced i).1.unlogged, (m.advance forced i).2) := by
  have hstops : (m.row? i.current).getD .terminal ≠ .terminal := by
    rw [ne_eq, ← isComplete_iff, hopen]
    exact Bool.false_ne_true
  have hrow' : m.unrecorded.row? i.unlogged.current = m.row? i.current := rfl
  have hcap' : m.unrecorded.checkCap i.unlogged = m.checkCap i := rfl
  unfold advance
  rw [hrow', hcap', m.runAction_unrecorded, m.branchOutcome_unrecorded]
  cases hrow : (m.row? i.current).getD .terminal with
  | terminal =>
      exact absurd hrow hstops
  | action next =>
      rcases m.checkCap i with e | _
      · rfl
      · rcases m.runAction i with ⟨j, e | _⟩
        · rfl
        · exact congrArg (·, _) (m.commit_unrecorded next none j)
  | decision onTrue onFalse =>
      rcases m.checkCap i with e | _
      · rfl
      · rcases m.branchOutcome forced i with ⟨j, e | outcome⟩
        · rfl
        · exact congrArg (·, _) (m.commit_unrecorded _ (some outcome) j)

end Unrecorded

section Settings

variable {S : ω → ω → Prop} {m : Machine ω D} {i i' : Instance ω D}

/-- Without their logs, instances in the same standing are mirrored. -/
theorem mirrored_unlogged
    (h : i.Alongside S i') :
    i.unlogged.Mirrored S id i'.unlogged where
  current_eq := h.1.current_eq
  steps_eq := h.1.steps_eq
  visits_eq := fun p => congrArg (·[p]?) h.1.visits_eq
  data_eq := h.1.data_eq
  log_eq := rfl
  related := h.2

/-- Steps from states that can be left do the same whatever the settings are. -/
theorem advance_withSettings
    (settings : Settings)
    (hr : ∀ p h, m.handler? p = some h → h.Respects S)
    (h : i.Alongside S i')
    (hopen : m.isComplete i = false)
    (forced : Option Bool) :
    ((m.withSettings settings).advance forced i').2 = (m.advance forced i).2 ∧
    (m.advance forced i).1.Alongside S
      ((m.withSettings settings).advance forced i').1 := by
  have hopen' : (m.withSettings settings).isComplete i' = false := by
    rw [isComplete, h.1.current_eq]
    exact hopen
  have hcap : m.unrecorded.checkCap i'.unlogged = m.unrecorded.checkCap i.unlogged := by
    simp only [checkCap, Instance.unlogged, h.1.rules_eq, h.1.current_eq, h.1.visits_eq]
  have hself : m.unrecorded.Mirrors S m.unrecorded id := mirrors_self hr
  have hask : m.unrecorded.kind? i.unlogged.current = some .decision → forced = none →
      Option.Rel (Handler.AnswersAlike S) (m.unrecorded.handler? i.unlogged.current)
        (m.unrecorded.handler? i'.unlogged.current) := by
    intro _ _
    rw [(mirrored_unlogged h).current_eq]
    exact rel_self fun handler hh => (hr _ handler hh).answersAlike
  obtain ⟨hresult, hafter⟩ := hself.advance (mirrored_unlogged h) (fun _ => hcap) hask
  have hsilent' : (m.withSettings settings).unrecorded = m.unrecorded := rfl
  have hplain' := (m.withSettings settings).advance_unrecorded hopen' forced
  rw [hsilent'] at hplain'
  rw [m.advance_unrecorded hopen, hplain'] at hresult hafter
  have hrules := ((m.withSettings settings).advance_spec forced i').rules_eq
  have hsame := hafter.sameRun
  refine ⟨by simpa using hresult, ?_, hafter.related⟩
  exact {
    current_eq := hsame.current_eq
    steps_eq := hsame.steps_eq
    visits_eq := hsame.visits_eq
    data_eq := hsame.data_eq
    rules_eq := by rw [hrules, (m.advance_spec forced i).rules_eq, h.1.rules_eq] }

theorem lockstep_withSettings
    (settings : Settings)
    (hr : ∀ p h, m.handler? p = some h → h.Respects S) :
    m.Lockstep (m.withSettings settings) (fun i => m.isComplete i = false)
      (Instance.Alongside S) where
  alike := rfl
  standing := fun h => h.1
  compared := fun hopen => hopen
  advance := fun h hopen forced => advance_withSettings settings hr h hopen forced
  restart := fun h => ⟨⟨rfl, rfl, by simp [restart, h.1.visits_eq], h.1.data_eq,
    h.1.rules_eq⟩, h.2⟩
  rules := fun h rules => ⟨{ h.1 with rules_eq := rfl }, h.2⟩

end Settings

/-! ### Runs and terminal states -/

section Terminal

variable {m : Machine ω D}

/-- Where steps in terminal states are ignored, no step is refused for being one. -/
theorem Course.ne_terminalStep
    (hpolicy : m.settings.terminalStep = .ignore)
    {i j : Instance ω D}
    {taken : List Transition}
    {e : Option RunError}
    (h : m.Course i taken e j)
    (name state : String) :
    e ≠ some (.terminalStep name state) := by
  rintro rfl
  generalize hreport : some (RunError.terminalStep name state) = report at h
  induction h with
  | stay i =>
      cases hreport
  | refused h =>
      cases hreport
      cases h with
      | unknown hunknown => cases resolve_error hunknown
      | mismatch hquotas => cases checkQuotas_error hquotas
  | failed h =>
      cases hreport
      have hspec := Advance.of_eq h
      generalize hanswer :
        (Except.error (.terminalStep name state) : Except RunError StepResult) = answer
          at hspec
      cases hspec with
      | stopped hrow =>
          simp [terminalStep, hpolicy] at hanswer
      | capped hrow hkind hcap =>
          cases hanswer
          obtain ⟨_, _, he⟩ := checkCap_error hcap
          cases he
      | actionFailed hrow hcap hrun =>
          cases hanswer
          obtain ⟨_, _, he⟩ := runAction_error hrun
          cases he
      | decisionFailed hrow hcap hask =>
          cases hanswer
          obtain ⟨_, he⟩ := branchOutcome_error hask
          cases he
      | acted | decided =>
          cases hanswer
  | step h _ ih =>
      exact ih hreport

/-- Before the machine has halted, a step does not depend on what it would do there. -/
theorem advance_of_policy
    (policy : TerminalPolicy)
    {i : Instance ω D}
    (hopen : m.isComplete i = false)
    (forced : Option Bool) :
    (m.withSettings { m.settings with terminalStep := policy }).advance forced i =
      m.advance forced i := by
  have hstops : (m.row? i.current).getD .terminal ≠ .terminal := by
    rw [ne_eq, ← isComplete_iff, hopen]
    exact Bool.false_ne_true
  have hrow' : (m.withSettings { m.settings with terminalStep := policy }).row? i.current =
      m.row? i.current := rfl
  unfold advance
  rw [hrow']
  cases hrow : (m.row? i.current).getD .terminal with
  | terminal => exact absurd hrow hstops
  | action next | decision onTrue onFalse => rfl

/-- Runs do not depend on what a step does in a terminal state. -/
theorem lockstep_policy
    (m : Machine ω D)
    (policy : TerminalPolicy) :
    m.Lockstep (m.withSettings { m.settings with terminalStep := policy })
      (fun i => m.isComplete i = false) (· = ·) where
  alike := rfl
  standing := by
    rintro i _ rfl
    constructor <;> rfl
  compared := fun hopen => hopen
  advance := by
    rintro i _ rfl hopen forced
    rw [advance_of_policy policy hopen]
    exact ⟨rfl, rfl⟩
  restart := by
    rintro i _ rfl
    rfl
  rules := by
    rintro i _ rfl rules
    rfl

/-- No run reports that a step was asked for in a terminal state. -/
theorem ne_terminalStep_of_runs
    {op : Operation ω D}
    (hop : op.Runs)
    (i : Instance ω D)
    (name state : String) :
    (m.perform op i).2 ≠ some (.terminalStep name state) := by
  have hinStep : op.InStep (fun i => m.isComplete i = false) (· = ·) i := by
    cases op with
    | runUntil bound condition => exact fun j j' hjj' => congrArg condition hjj'.symm
    | runToCompletion | runToState | runToStepCount | runPastState => trivial
    | _ => exact hop.elim
  have htravels : op.Travels := by
    cases op <;> trivial
  -- the run reports the same where such steps are ignored, and there nothing refuses them
  have hsame := ((m.lockstep_policy .ignore).perform hinStep rfl).1
  rw [← error?_response, ← hsame, error?_response]
  exact Course.ne_terminalStep rfl (course_of_travels _ htravels i) name state

theorem open_of_drivePast
    {id : StateId}
    {bound : Nat}
    {i : Instance ω D}
    (h : (m.drivePast id bound i).2 = .unfinished) :
    m.isComplete (m.drivePast id bound i).1 = false := by
  fun_induction drivePast m id bound i with
  | case1 bound i hcomplete =>
      cases h
  | case2 i hopen =>
      exact eq_false_of_ne_true hopen
  | case3 i hopen bound previous j result hstep hpast =>
      cases h
  | case4 i hopen bound previous j result hstep hpast ih =>
      exact ih h
  | case5 i hopen bound j e hstep =>
      cases h

/-- A run that its bound stops has not come to a terminal state. -/
theorem open_of_unfinished
    {op : Operation ω D}
    (hop : op.Runs)
    {i : Instance ω D}
    (h : m.response op i = .ended .unfinished) :
    m.isComplete (m.perform op i).1 = false := by
  have hdrive : ∀ {verdict bound}, m.Judges verdict →
      (m.drive verdict bound i).2 = .unfinished →
      m.isComplete (m.drive verdict bound i).1 = false :=
    fun hjudges hunfinished =>
      hjudges.goes_on (verdict_of_drive_unfinished hjudges hunfinished)
  cases op with
  | runToCompletion bound =>
      exact hdrive m.judges_completion (Response.ended.inj h)
  | runUntil bound condition =>
      exact hdrive (m.judges_goal condition .condition) (Response.ended.inj h)
  | runToState bound state =>
      simp only [response, perform, runToState] at h ⊢
      cases hid : m.resolve state with
      | error e =>
          simp [hid] at h
      | ok id =>
          simp only [hid] at h ⊢
          exact hdrive (m.judges_goal _ (.state hid)) (Response.ended.inj h)
  | runPastState bound state =>
      simp only [response, perform, runPastState] at h ⊢
      cases hid : m.resolve state with
      | error e =>
          simp [hid] at h
      | ok id =>
          simp only [hid] at h ⊢
          exact open_of_drivePast (Response.ended.inj h)
  | runToStepCount count =>
      cases h
  | _ =>
      exact hop.elim

end Terminal

/-- Two machines that differ in their settings alone give the same answers to all
operations that settings have no part in, and leave instances in the same standing, if
these were so before; their logs may differ, and their surroundings by anything that no
handler sees.  In particular no run of a machine reports a step in a terminal state, and
none goes on there until its bound. -/
theorem settings_steer_no_run
    (m : Machine ω D)
    (settings : Settings)
    {S : ω → ω → Prop}
    (hrespect : ∀ p h, m.handler? p = some h → h.Respects S)
    {i i' : Instance ω D}
    (hstanding : i.SameStanding i')
    (hrelated : S i.surroundings i'.surroundings)
    {ops : List (Operation ω D)}
    (hneutral : m.EachFrom (fun i op => op.Neutral m i) ops i) :
    ((m.withSettings settings).responses ops i' = m.responses ops i ∧
      (m.performAll ops i).SameStanding ((m.withSettings settings).performAll ops i')) ∧
    ∀ (op : Operation ω D) (j : Instance ω D), op.Runs →
      (∀ name state, (m.perform op j).2 ≠ some (.terminalStep name state)) ∧
      (m.response op j = .ended .unfinished →
        m.isComplete (m.perform op j).1 = false) := by
  have hops := hneutral.imp (Q := fun i op => op.InStep (fun i => m.isComplete i = false)
    (Instance.Alongside S) i) fun i op hop => hop.inStep
  obtain ⟨hanswers, hend⟩ :=
    (lockstep_withSettings settings hrespect).performAll hops ⟨hstanding, hrelated⟩
  refine ⟨⟨hanswers, hend.1⟩, ?_⟩
  intro op j hop
  exact ⟨ne_terminalStep_of_runs hop j, open_of_unfinished hop⟩

/-- Two runs of the small machine, a forced outcome and a cap on the way, where a log is
kept and where none is. -/
theorem standing_retry :
    ∃ (settings : Settings) (ops : List (Operation Nat Nat)) (i i' : Instance Nat Nat),
      Blueprint.retry.build = .ok Blueprint.retryMachine ∧
      settings.terminalStep = .ignore ∧
      settings.recordTransitions = false ∧
      Blueprint.retryMachine.EachFrom
        (fun i op => op.Neutral Blueprint.retryMachine i) ops i ∧
      (Blueprint.retryMachine.performAll ops i).log.size = 3 ∧
      ((Blueprint.retryMachine.withSettings settings).performAll ops i').log.size = 0 ∧
      (Blueprint.retryMachine.withSettings settings).responses ops i' =
        Blueprint.retryMachine.responses ops i ∧
      (Blueprint.retryMachine.performAll ops i).SameStanding
        ((Blueprint.retryMachine.withSettings settings).performAll ops i') := by
  have hr : ∀ p h, Blueprint.retryMachine.handler? p = some h →
      h.Respects fun _ _ => True := by
    have hdet : ∀ r ∈ Blueprint.retry.handlers, r.2.Deterministic := by
      simp [Blueprint.retry, Handler.Deterministic]
    exact Blueprint.forall_handler_of_build Blueprint.build_retry
      fun r hr => (hdet r hr).respects
  have hneutral : Blueprint.retryMachine.EachFrom
      (fun i op => op.Neutral Blueprint.retryMachine i)
      [.step, .replayStep false, .runPastState 10 "Check", .runToCompletion 10, .restart,
        .capVisits "Check" 1, .step, .replayStep false,
        .runUntil 10 fun j => decide (7 ≤ j.data)]
      (Blueprint.retryMachine.newInstance 0 0) := by
    refine ⟨?_, ?_, trivial, trivial, trivial, trivial, ?_, ?_,
      fun j j' hjj' => congrArg (fun d => decide (7 ≤ d)) hjj'.data_eq, trivial⟩ <;>
      (change Blueprint.retryMachine.isComplete _ = false; decide +kernel)
  have hstanding : (Blueprint.retryMachine.newInstance 0 0).SameStanding
      (Blueprint.retryMachine.newInstance 5 0) := by
    constructor <;> rfl
  have hsame := (settings_steer_no_run Blueprint.retryMachine
    { terminalStep := .ignore, recordTransitions := false, style := { fontSize := 30 } }
    hr hstanding trivial hneutral).1
  exact ⟨_, _, _, _, Blueprint.build_retry, rfl, rfl, hneutral, by decide +kernel,
    by decide +kernel, hsame⟩

end Machine
end Flowchart

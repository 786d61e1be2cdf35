import Flowchart.Instance
import Mathlib.Logic.Relation

/-!
# What a step can do

`Advance` lists the six ways in which a step ends, with everything that was
checked on the way, and `advance_spec` says that there are no others.  Later
modules go through these cases and do not unfold the step again.

Handlers see the surroundings and the data only.  So each way is an effect on
these two, followed by a transition that is entered in the books, or by nothing.
`Change` collects what may happen to an instance in one go, and `Move` the part
of it that happens while no action fails and nobody interferes.
-/

namespace Flowchart

variable {ω D : Type}

/-- The instance after something was done to its surroundings and its data. -/
def Instance.withEffect (i : Instance ω D) (w : ω) (d : D) : Instance ω D :=
  { i with surroundings := w, data := d }

namespace Instance

variable (i : Instance ω D) (w : ω) (d : D)

@[simp] theorem withEffect_current :
    (i.withEffect w d).current = i.current := by
  rfl

@[simp] theorem withEffect_steps :
    (i.withEffect w d).steps = i.steps := by
  rfl

@[simp] theorem withEffect_data :
    (i.withEffect w d).data = d := by
  rfl

@[simp] theorem withEffect_log :
    (i.withEffect w d).log = i.log := by
  rfl

@[simp] theorem withEffect_visits :
    (i.withEffect w d).visits = i.visits := by
  rfl

@[simp] theorem withEffect_rules :
    (i.withEffect w d).rules = i.rules := by
  rfl

theorem withEffect_self :
    i.withEffect i.surroundings i.data = i := by
  rfl

end Instance

/-- A handler that does the same to the data, and answers the same, in all
surroundings. -/
def Handler.Deterministic : Handler ω D → Prop
  | action run => ∀ w w' d, (run w d).2 = (run w' d).2
  | decision test => ∀ w w' d, (test w d).2 = (test w' d).2

namespace Handler.Deterministic

variable {h : Handler ω D}

theorem runAction
    (hdet : h.Deterministic)
    (w w' : ω)
    (d : D) :
    (h.runAction w d).2 = (h.runAction w' d).2 := by
  cases h with
  | action run => exact hdet w w' d
  | decision test => rfl

theorem evaluate
    (hdet : h.Deterministic)
    (w w' : ω)
    (d : D) :
    (h.evaluate w d).2 = (h.evaluate w' d).2 := by
  cases h with
  | action run => rfl
  | decision test => exact hdet w w' d

end Handler.Deterministic

/-- The error of a call that may fail. -/
def errorOf {α : Type} : Except RunError α → Option RunError
  | .ok _ => none
  | .error e => some e

namespace Machine

/-- What running a machine relies on. -/
structure WellFormed (m : Machine ω D) : Prop where
  start_lt : m.start < m.states.length
  target_lt : ∀ s ∈ m.states, ∀ target ∈ s.row.targets, target < m.states.length
  handler_none : ∀ s ∈ m.states, s.row = .terminal → s.handler = none
  handler_kind : ∀ s ∈ m.states, s.row ≠ .terminal →
    ∃ h, s.handler = some h ∧ h.kind = s.row.kind

/-- A transition of the table. -/
inductive Edge (m : Machine ω D) : StateId → Option Bool → StateId → Prop
  | action {source next : StateId} :
      m.row? source = some (.action next) →
      Edge m source none next
  | decision {source onTrue onFalse : StateId} (outcome : Bool) :
      m.row? source = some (.decision onTrue onFalse) →
      Edge m source (some outcome) (if outcome then onTrue else onFalse)

theorem nameOf?_of_lt
    (m : Machine ω D)
    {id : StateId}
    (hlt : id < m.states.length) :
    m.nameOf? id = some (m.label id) := by
  simp [label, nameOf?, List.getElem?_eq_getElem hlt]

theorem Edge.source_lt
    {m : Machine ω D}
    {source target : StateId}
    {branch : Option Bool}
    (hedge : m.Edge source branch target) :
    source < m.states.length := by
  cases hedge with
  | action hrow | decision outcome hrow =>
      obtain ⟨s, hs, -⟩ := Option.map_eq_some_iff.1 hrow
      exact (List.getElem?_eq_some_iff.1 hs).1

theorem Edge.target_lt
    {m : Machine ω D}
    (hm : m.WellFormed)
    {source target : StateId}
    {branch : Option Bool}
    (hedge : m.Edge source branch target) :
    target < m.states.length := by
  cases hedge with
  | action hrow =>
      obtain ⟨s, hs, hrow⟩ := Option.map_eq_some_iff.1 hrow
      have hmem := List.mem_of_getElem? hs
      exact hm.target_lt s hmem target (by simp [hrow, Row.targets])
  | decision outcome hrow =>
      obtain ⟨s, hs, hrow⟩ := Option.map_eq_some_iff.1 hrow
      have hmem := List.mem_of_getElem? hs
      refine hm.target_lt s hmem _ ?_
      cases outcome <;> simp [hrow, Row.targets]

theorem Edge.kind_ne_terminal
    {m : Machine ω D}
    {source target : StateId}
    {branch : Option Bool}
    (hedge : m.Edge source branch target) :
    m.kind? source ≠ some .terminal := by
  cases hedge with
  | action hrow | decision outcome hrow =>
      simp [kind?, hrow, Row.kind]

section Books

variable (m : Machine ω D) (target : StateId) (branch : Option Bool) (i : Instance ω D)

@[simp] theorem commit_current :
    (m.commit target branch i).current = target := by
  rfl

@[simp] theorem commit_steps :
    (m.commit target branch i).steps = i.steps + 1 := by
  rfl

@[simp] theorem commit_data :
    (m.commit target branch i).data = i.data := by
  rfl

@[simp] theorem commit_visits :
    (m.commit target branch i).visits = i.visits.modify i.current (· + 1) := by
  rfl

@[simp] theorem commit_rules :
    (m.commit target branch i).rules = i.rules := by
  rfl

/-- The record of a transition. -/
def recordOf (m : Machine ω D) (target : StateId) (branch : Option Bool)
    (i : Instance ω D) : Record where
  step := i.steps + 1
  source := m.label i.current
  target := m.label target
  branch := branch
  time := m.hooks.clock i.surroundings

theorem commit_log_of_recording
    (h : m.settings.recordTransitions = true) :
    (m.commit target branch i).log = i.log.push (m.recordOf target branch i) := by
  simp [commit, h, recordOf]

theorem commit_log_of_not_recording
    (h : m.settings.recordTransitions = false) :
    (m.commit target branch i).log = i.log := by
  simp [commit, h]

end Books

/-- Without rules no cap is exceeded. -/
theorem checkCap_of_no_rules
    (m : Machine ω D)
    {i : Instance ω D}
    (hrules : i.rules = {}) :
    m.checkCap i = .ok () := by
  simp [checkCap, hrules, VisitRules.checkEntry, Limits.get?]

@[simp] theorem mapError_ok
    {ε ε' α : Type}
    (f : ε → ε')
    (a : α) :
    (Except.ok a : Except ε α).mapError f = .ok a := by
  rfl

@[simp] theorem mapError_error
    {ε ε' α : Type}
    (f : ε → ε')
    (e : ε) :
    (Except.error e : Except ε α).mapError f = .error (f e) := by
  rfl

/-- Running an action is calling the handler and naming the state in its error. -/
theorem runAction_of_handler
    (m : Machine ω D)
    {i : Instance ω D}
    {h : Handler ω D}
    (hh : m.handler? i.current = some h) :
    m.runAction i =
      (i.withEffect (h.runAction i.surroundings i.data).1
          (h.runAction i.surroundings i.data).2.1,
        (h.runAction i.surroundings i.data).2.2.mapError (m.failed i)) := by
  simp only [runAction, hh]
  rcases h.runAction i.surroundings i.data with ⟨w, d, result⟩
  cases result <;> rfl

/-- Asking a decision is calling the handler and naming the state in its error. -/
theorem evaluate_of_handler
    (m : Machine ω D)
    {i : Instance ω D}
    {h : Handler ω D}
    (hh : m.handler? i.current = some h) :
    m.evaluate i =
      (i.withEffect (h.evaluate i.surroundings i.data).1 i.data,
        (h.evaluate i.surroundings i.data).2.mapError (m.failed i)) := by
  simp only [evaluate, hh]
  rcases h.evaluate i.surroundings i.data with ⟨w, result⟩
  cases result <;> rfl

/-- What an action that was run has answered. -/
theorem runAction_answer
    {m : Machine ω D}
    {i : Instance ω D}
    {h : Handler ω D}
    (hh : m.handler? i.current = some h)
    {w : ω}
    {d : D}
    {result : Except RunError Unit}
    (hrun : m.runAction i = (i.withEffect w d, result)) :
    ∃ answer, (h.runAction i.surroundings i.data).2 = (d, answer) ∧
      result = answer.mapError (m.failed i) := by
  rw [m.runAction_of_handler hh] at hrun
  obtain ⟨heffect, hresult⟩ := Prod.mk.inj hrun
  have hd : (h.runAction i.surroundings i.data).2.1 = d :=
    congrArg Instance.data heffect
  exact ⟨_, by rw [← hd], hresult.symm⟩

/-- What a decision that was asked has answered. -/
theorem evaluate_answer
    {m : Machine ω D}
    {i j : Instance ω D}
    {h : Handler ω D}
    (hh : m.handler? i.current = some h)
    {result : Except RunError Bool}
    (hask : m.evaluate i = (j, result)) :
    result = (h.evaluate i.surroundings i.data).2.mapError (m.failed i) := by
  rw [m.evaluate_of_handler hh] at hask
  exact (Prod.mk.inj hask).2.symm

/-- An action touches the surroundings and the data only. -/
theorem runAction_effect
    (m : Machine ω D)
    (i : Instance ω D) :
    ∃ w d, (m.runAction i).1 = i.withEffect w d := by
  cases hh : m.handler? i.current with
  | none =>
      exact ⟨i.surroundings, i.data, by simp [runAction, hh, Instance.withEffect_self]⟩
  | some h =>
      exact ⟨_, _, by rw [m.runAction_of_handler hh]⟩

/-- A decision touches the surroundings only. -/
theorem branchOutcome_effect
    (m : Machine ω D)
    (forced : Option Bool)
    (i : Instance ω D) :
    ∃ w, (m.branchOutcome forced i).1 = i.withEffect w i.data := by
  cases forced with
  | some outcome =>
      exact ⟨i.surroundings, rfl⟩
  | none =>
      cases hh : m.handler? i.current with
      | none =>
          exact ⟨i.surroundings, by
            simp [branchOutcome, evaluate, hh, Instance.withEffect_self]⟩
      | some h =>
          exact ⟨_, by rw [branchOutcome, m.evaluate_of_handler hh]⟩

/-- A step goes to the target of an action that succeeds. -/
theorem advance_of_action
    (m : Machine ω D)
    (forced : Option Bool)
    {i j : Instance ω D}
    {next : StateId}
    (hrow : m.row? i.current = some (.action next))
    (hcap : m.checkCap i = .ok ())
    (hrun : m.runAction i = (j, .ok ())) :
    m.advance forced i = (m.commit next none j, .ok (.advanced j.current next none)) := by
  simp [advance, hrow, hcap, hrun]

/-- A step goes to the target of the outcome of a decision. -/
theorem advance_of_decision
    (m : Machine ω D)
    {forced : Option Bool}
    {i j : Instance ω D}
    {onTrue onFalse : StateId}
    {outcome : Bool}
    (hrow : m.row? i.current = some (.decision onTrue onFalse))
    (hcap : m.checkCap i = .ok ())
    (hask : m.branchOutcome forced i = (j, .ok outcome)) :
    m.advance forced i =
      (m.commit (if outcome then onTrue else onFalse) (some outcome) j,
        .ok (.advanced j.current (if outcome then onTrue else onFalse)
          (some outcome))) := by
  simp [advance, hrow, hcap, hask]

/-- The ways in which a step ends. -/
inductive Advance (m : Machine ω D) (forced : Option Bool) (i : Instance ω D) :
    Instance ω D → Except RunError StepResult → Prop
  | stopped
      (hrow : (m.row? i.current).getD .terminal = .terminal) :
      Advance m forced i i (m.terminalStep i)
  | capped {row : Row} {e : RunError}
      (hrow : m.row? i.current = some row)
      (hkind : row ≠ .terminal)
      (hcap : m.checkCap i = .error e) :
      Advance m forced i i (.error e)
  | actionFailed {next : StateId} {e : RunError} {w : ω} {d : D}
      (hrow : m.row? i.current = some (.action next))
      (hcap : m.checkCap i = .ok ())
      (hrun : m.runAction i = (i.withEffect w d, .error e)) :
      Advance m forced i (i.withEffect w d) (.error e)
  | acted {next : StateId} {w : ω} {d : D}
      (hrow : m.row? i.current = some (.action next))
      (hcap : m.checkCap i = .ok ())
      (hrun : m.runAction i = (i.withEffect w d, .ok ())) :
      Advance m forced i (m.commit next none (i.withEffect w d))
        (.ok (.advanced i.current next none))
  | decisionFailed {onTrue onFalse : StateId} {e : RunError} {w : ω}
      (hrow : m.row? i.current = some (.decision onTrue onFalse))
      (hcap : m.checkCap i = .ok ())
      (hask : m.branchOutcome forced i = (i.withEffect w i.data, .error e)) :
      Advance m forced i (i.withEffect w i.data) (.error e)
  | decided {onTrue onFalse : StateId} {outcome : Bool} {w : ω}
      (hrow : m.row? i.current = some (.decision onTrue onFalse))
      (hcap : m.checkCap i = .ok ())
      (hask : m.branchOutcome forced i = (i.withEffect w i.data, .ok outcome)) :
      Advance m forced i
        (m.commit (if outcome then onTrue else onFalse) (some outcome)
          (i.withEffect w i.data))
        (.ok (.advanced i.current (if outcome then onTrue else onFalse) (some outcome)))

/-- Every step ends in one of the listed ways. -/
theorem advance_spec
    (m : Machine ω D)
    (forced : Option Bool)
    (i : Instance ω D) :
    m.Advance forced i (m.advance forced i).1 (m.advance forced i).2 := by
  unfold advance
  cases hrow : m.row? i.current with
  | none =>
      exact .stopped (by simp [hrow])
  | some row =>
      cases row with
      | terminal =>
          exact .stopped (by simp [hrow])
      | action next =>
          simp only [Option.getD_some]
          cases hcap : m.checkCap i with
          | error e =>
              exact .capped hrow (by simp) hcap
          | ok _ =>
              obtain ⟨w, d, heffect⟩ := m.runAction_effect i
              cases hrun : m.runAction i with
              | mk j result =>
                  rw [hrun] at heffect
                  subst heffect
                  cases result with
                  | error e =>
                      exact .actionFailed hrow hcap hrun
                  | ok _ =>
                      exact .acted hrow hcap hrun
      | decision onTrue onFalse =>
          simp only [Option.getD_some]
          cases hcap : m.checkCap i with
          | error e =>
              exact .capped hrow (by simp) hcap
          | ok _ =>
              obtain ⟨w, heffect⟩ := m.branchOutcome_effect forced i
              cases hask : m.branchOutcome forced i with
              | mk j result =>
                  rw [hask] at heffect
                  subst heffect
                  cases result with
                  | error e =>
                      exact .decisionFailed hrow hcap hask
                  | ok outcome =>
                      exact .decided hrow hcap hask

theorem Advance.of_eq
    {m : Machine ω D}
    {forced : Option Bool}
    {i j : Instance ω D}
    {result : Except RunError StepResult}
    (h : m.advance forced i = (j, result)) :
    m.Advance forced i j result := by
  have hspec := m.advance_spec forced i
  rwa [h] at hspec

/-- A step leads to a state of the machine. -/
theorem Advance.current_lt
    {m : Machine ω D}
    (hm : m.WellFormed)
    {forced : Option Bool}
    {i j : Instance ω D}
    {result : Except RunError StepResult}
    (h : m.Advance forced i j result)
    (hlt : i.current < m.states.length) :
    j.current < m.states.length := by
  cases h with
  | stopped | capped | actionFailed | decisionFailed =>
      exact hlt
  | acted hrow hcap hrun =>
      exact (Edge.action hrow).target_lt hm
  | decided hrow hcap hask =>
      exact (Edge.decision _ hrow).target_lt hm

/-- An instance is complete exactly where it has no row or a terminal one. -/
theorem isComplete_iff
    (m : Machine ω D)
    (i : Instance ω D) :
    m.isComplete i = true ↔ (m.row? i.current).getD .terminal = .terminal := by
  unfold isComplete isTerminal kind?
  cases m.row? i.current with
  | none =>
      simp
  | some row =>
      cases row <;> simp [Row.kind, Kind.isTerminal]

/-- A step that succeeds either finds that the machine has halted, and then it does
nothing, or takes a transition of the table. -/
theorem Advance.halts_or_commits
    {m : Machine ω D}
    {forced : Option Bool}
    {i j : Instance ω D}
    {result : StepResult}
    (h : m.Advance forced i j (.ok result)) :
    (m.isComplete i = true ∧ m.settings.terminalStep = .ignore ∧
      j = i ∧ result = .halted i.current) ∨
    ∃ branch target w d,
      m.isComplete i = false ∧
      m.checkCap i = .ok () ∧
      m.Edge i.current branch target ∧
      j = m.commit target branch (i.withEffect w d) ∧
      result = .advanced i.current target branch := by
  generalize hanswer : Except.ok result = answer at h
  cases h with
  | stopped hrow =>
      unfold terminalStep at hanswer
      split at hanswer
      · rename_i hpolicy
        exact .inl ⟨(m.isComplete_iff i).2 hrow, hpolicy, rfl, Except.ok.inj hanswer⟩
      · cases hanswer
  | capped | actionFailed | decisionFailed =>
      cases hanswer
  | acted hrow hcap hrun =>
      have hopen : m.isComplete i = false := by
        simp [← Bool.not_eq_true, isComplete_iff, hrow]
      exact .inr ⟨_, _, _, _, hopen, hcap, .action hrow, rfl, Except.ok.inj hanswer⟩
  | decided hrow hcap hask =>
      have hopen : m.isComplete i = false := by
        simp [← Bool.not_eq_true, isComplete_iff, hrow]
      exact .inr ⟨_, _, _, _, hopen, hcap, .decision _ hrow, rfl, Except.ok.inj hanswer⟩

/-- A step that fails is an effect at most. -/
theorem Advance.effect_of_error
    {m : Machine ω D}
    {forced : Option Bool}
    {i j : Instance ω D}
    {e : RunError}
    (h : m.Advance forced i j (.error e)) :
    ∃ w d, j = i.withEffect w d := by
  generalize hanswer : Except.error e = answer at h
  cases h with
  | stopped | capped =>
      exact ⟨_, _, i.withEffect_self.symm⟩
  | actionFailed | decisionFailed =>
      exact ⟨_, _, rfl⟩
  | acted | decided =>
      cases hanswer

/-- A step leaves the visit rules alone. -/
theorem Advance.rules_eq
    {m : Machine ω D}
    {forced : Option Bool}
    {i j : Instance ω D}
    {result : Except RunError StepResult}
    (h : m.Advance forced i j result) :
    j.rules = i.rules := by
  cases h <;> rfl

/-- What may happen to an instance in one go, whoever is the cause. -/
inductive Change (m : Machine ω D) : Instance ω D → Instance ω D → Prop
  | effect (i : Instance ω D) (w : ω) (d : D) :
      Change m i (i.withEffect w d)
  | rules (i : Instance ω D) (rules : VisitRules) :
      Change m i { i with rules := rules }
  | restart (i : Instance ω D) :
      Change m i (m.restart i)
  | commit {i : Instance ω D} {target : StateId} {branch : Option Bool}
      (hcap : m.checkCap i = .ok ())
      (hedge : m.Edge i.current branch target) :
      Change m i (m.commit target branch i)

/-- What happens to an instance in one go while no action fails and nobody
interferes with the data. -/
inductive Move (m : Machine ω D) : Instance ω D → Instance ω D → Prop
  | observe (i : Instance ω D) (w : ω) :
      Move m i (i.withEffect w i.data)
  | rules (i : Instance ω D) (rules : VisitRules) :
      Move m i { i with rules := rules }
  | act {i : Instance ω D} {next : StateId} {w : ω} {d : D}
      (hrow : m.row? i.current = some (.action next))
      (hrun : m.runAction i = (i.withEffect w d, .ok ())) :
      Move m i (m.commit next none (i.withEffect w d))
  | decide {i : Instance ω D} {onTrue onFalse : StateId} (outcome : Bool) (w : ω)
      (hrow : m.row? i.current = some (.decision onTrue onFalse)) :
      Move m i
        (m.commit (if outcome then onTrue else onFalse) (some outcome)
          (i.withEffect w i.data))

/-- An instance after any number of changes. -/
abbrev Evolves (m : Machine ω D) : Instance ω D → Instance ω D → Prop :=
  Relation.ReflTransGen m.Change

/-- What one step of a relation keeps is kept by any number of them. -/
theorem keeps_of_reflTransGen
    {α : Type}
    {R : α → α → Prop}
    {P : α → Prop}
    (hstep : ∀ i j, R i j → P i → P j)
    {i j : α}
    (hij : Relation.ReflTransGen R i j)
    (hi : P i) :
    P j := by
  induction hij with
  | refl => exact hi
  | tail _ hlast ih => exact hstep _ _ hlast ih

/-- Whether an action failed, given what was reported and where. -/
def ActionFailed (m : Machine ω D) (i : Instance ω D) : Option RunError → Prop
  | some (.handlerFailed _ _) => m.kind? i.current = some .action
  | _ => False

/-- A step is an effect, and a transition if it succeeds. -/
theorem Advance.evolves
    {m : Machine ω D}
    {forced : Option Bool}
    {i j : Instance ω D}
    {result : Except RunError StepResult}
    (h : m.Advance forced i j result) :
    m.Evolves i j := by
  cases h with
  | stopped hrow =>
      exact .refl
  | capped hrow hkind hcap =>
      exact .refl
  | actionFailed hrow hcap hrun =>
      exact .single (.effect i _ _)
  | acted hrow hcap hrun =>
      exact .tail (.single (.effect i _ _)) (.commit hcap (.action hrow))
  | decisionFailed hrow hcap hask =>
      exact .single (.effect i _ _)
  | decided hrow hcap hask =>
      exact .tail (.single (.effect i _ _)) (.commit hcap (.decision _ hrow))

/-- An action fails with the error of a handler. -/
theorem runAction_error
    {m : Machine ω D}
    {i j : Instance ω D}
    {e : RunError}
    (h : m.runAction i = (j, .error e)) :
    ∃ state failure, e = .handlerFailed state failure := by
  cases hh : m.handler? i.current with
  | none =>
      simp only [runAction, hh, Prod.mk.injEq, Except.error.injEq] at h
      exact ⟨_, _, h.2.symm⟩
  | some handler =>
      rw [m.runAction_of_handler hh] at h
      cases hresult : (handler.runAction i.surroundings i.data).2.2 with
      | ok _ =>
          simp [hresult] at h
      | error failure =>
          simp only [hresult, mapError_error, Prod.mk.injEq, Except.error.injEq] at h
          exact ⟨_, _, h.2.symm⟩

/-- A step in which no action fails is a move, or leaves data and books alone. -/
theorem Advance.moves
    {m : Machine ω D}
    {forced : Option Bool}
    {i j : Instance ω D}
    {result : Except RunError StepResult}
    (h : m.Advance forced i j result)
    (hok : ¬ m.ActionFailed j (errorOf result)) :
    Relation.ReflTransGen m.Move i j := by
  cases h with
  | stopped hrow =>
      exact .refl
  | capped hrow hkind hcap =>
      exact .refl
  | actionFailed hrow hcap hrun =>
      obtain ⟨state, failure, rfl⟩ := runAction_error hrun
      refine absurd ?_ hok
      simp [ActionFailed, errorOf, kind?, hrow, Row.kind]
  | acted hrow hcap hrun =>
      exact .single (.act hrow hrun)
  | decisionFailed hrow hcap hask =>
      exact .single (.observe i _)
  | decided hrow hcap hask =>
      exact .single (.decide _ _ hrow)

end Machine
end Flowchart

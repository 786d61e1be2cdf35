import Flowchart.Proofs.Cap
import Flowchart.Proofs.Replay
import Mathlib.Data.Option.Basic

/-!
# Machines that mirror each other

One machine mirrors another if it is the same up to the numbers of the states and the
functions of the handlers: each state has a mirror image with the image of its row and
with its label, and the actions of the two do the same.  Handlers may see the
surroundings, so all of this is said for a relation between surroundings that they
keep.  Equality is such a relation whatever the handlers are; where they are
deterministic, any surroundings may be related.

Two instances in mirrored states stay so.  One step is compared by its kind; it needs
only that the caps of the two states agree and that a decision that is asked answers
alike.  Calls one after the other follow by induction.
-/

namespace Flowchart

variable {ω D : Type}

/-! ### Renumbered states -/

/-- A row with other numbers for the states. -/
def Row.rename (f : StateId → StateId) : Row → Row
  | terminal => terminal
  | action next => action (f next)
  | decision onTrue onFalse => decision (f onTrue) (f onFalse)

@[simp] theorem Row.rename_id
    (row : Row) :
    row.rename id = row := by
  cases row <;> rfl

@[simp] theorem Row.kind_rename
    (f : StateId → StateId)
    (row : Row) :
    (row.rename f).kind = row.kind := by
  cases row <;> rfl

@[simp] theorem Row.targets_rename
    (f : StateId → StateId)
    (row : Row) :
    (row.rename f).targets = row.targets.map f := by
  cases row <;> rfl

/-- What a step did, with other numbers for the states. -/
def StepResult.rename (f : StateId → StateId) : StepResult → StepResult
  | advanced source target branch => advanced (f source) (f target) branch
  | halted state => halted (f state)

@[simp] theorem StepResult.rename_id
    (result : StepResult) :
    result.rename id = result := by
  cases result <;> rfl

@[simp] theorem StepResult.map_rename_id :
    (Except.map (rename id) : Except RunError StepResult → _) = id := by
  funext answer
  cases answer <;> simp [Except.map]

@[simp] theorem StepResult.landing_rename
    (f : StateId → StateId)
    (result : StepResult) :
    (result.rename f).landing = f result.landing := by
  cases result <;> rfl

/-! ### Handlers in related surroundings -/

namespace Handler

/-- Run as actions in related surroundings, the two handlers do the same to the data,
answer the same and leave related surroundings. -/
def ActsAlike (S : ω → ω → Prop) (h h' : Handler ω D) : Prop :=
  ∀ w w' d, S w w' →
    (h.runAction w d).2 = (h'.runAction w' d).2 ∧
    S (h.runAction w d).1 (h'.runAction w' d).1

/-- Asked as decisions in related surroundings, the two handlers answer the same and
leave related surroundings. -/
def AnswersAlike (S : ω → ω → Prop) (h h' : Handler ω D) : Prop :=
  ∀ w w' d, S w w' →
    (h.evaluate w d).2 = (h'.evaluate w' d).2 ∧
    S (h.evaluate w d).1 (h'.evaluate w' d).1

/-- A relation between surroundings that a handler keeps and cannot see. -/
def Respects (S : ω → ω → Prop) : Handler ω D → Prop
  | action run => ∀ w w' d, S w w' →
      (run w d).2 = (run w' d).2 ∧ S (run w d).1 (run w' d).1
  | decision test => ∀ w w' d, S w w' →
      (test w d).2 = (test w' d).2 ∧ S (test w d).1 (test w' d).1

variable {S : ω → ω → Prop} {h : Handler ω D}

theorem Respects.actsAlike
    (hr : h.Respects S) :
    h.ActsAlike S h := by
  cases h with
  | action run => exact hr
  | decision test => exact fun w w' d hw => ⟨rfl, hw⟩

theorem Respects.answersAlike
    (hr : h.Respects S) :
    h.AnswersAlike S h := by
  cases h with
  | action run => exact fun w w' d hw => ⟨rfl, hw⟩
  | decision test => exact hr

/-- Whatever it does, a handler does the same in the same surroundings. -/
theorem respects_eq
    (h : Handler ω D) :
    h.Respects (· = ·) := by
  cases h with
  | action run | decision test =>
      rintro w _ d rfl
      exact ⟨rfl, rfl⟩

/-- A deterministic handler sees no surroundings at all. -/
theorem Deterministic.respects
    (hdet : h.Deterministic) :
    h.Respects fun _ _ => True := by
  cases h with
  | action run | decision test =>
      exact fun w w' d _ => ⟨hdet w w' d, trivial⟩

end Handler

/-- An option is related to itself if what it holds is. -/
theorem rel_self
    {α : Type}
    {r : α → α → Prop}
    {o : Option α}
    (h : ∀ a, o = some a → r a a) :
    Option.Rel r o o := by
  cases o with
  | none => exact .none
  | some a => exact .some (h a rfl)

/-! ### Mirrors -/

/-- Two instances in mirrored states, with the same books up to the numbers of the
states and the times in the logs. -/
structure Instance.Mirrored (S : ω → ω → Prop) (mirror : StateId → StateId)
    (i i' : Instance ω D) : Prop where
  current_eq : i'.current = mirror i.current
  steps_eq : i'.steps = i.steps
  visits_eq : ∀ p, i'.visits[mirror p]? = i.visits[p]?
  data_eq : i'.data = i.data
  log_eq : i'.log.untimed = i.log.untimed
  related : S i.surroundings i'.surroundings

/-- Instances that are mirrored by the same numbers have the same run behind them. -/
theorem Instance.Mirrored.sameRun
    {S : ω → ω → Prop}
    {i i' : Instance ω D}
    (h : i.Mirrored S id i') :
    i.SameRun i' where
  current_eq := h.current_eq
  steps_eq := h.steps_eq
  visits_eq := List.ext_getElem? h.visits_eq
  data_eq := h.data_eq
  log_eq := h.log_eq

theorem Instance.SameRun.mirrored
    {S : ω → ω → Prop}
    {i i' : Instance ω D}
    (h : i.SameRun i')
    (hrelated : S i.surroundings i'.surroundings) :
    i.Mirrored S id i' where
  current_eq := h.current_eq
  steps_eq := h.steps_eq
  visits_eq := fun p => congrArg (·[p]?) h.visits_eq
  data_eq := h.data_eq
  log_eq := h.log_eq
  related := hrelated

namespace Machine

/-- The second machine is the first one up to the numbers of the states and the
functions of the decisions. -/
structure Mirrors (S : ω → ω → Prop) (m m' : Machine ω D)
    (mirror : StateId → StateId) : Prop where
  name_eq : m'.name = m.name
  settings_eq : m'.settings = m.settings
  injective : Function.Injective mirror
  row_eq : ∀ p, m'.row? (mirror p) = (m.row? p).map (Row.rename mirror)
  label_eq : ∀ p, m'.label (mirror p) = m.label p
  acts : ∀ p, Option.Rel (Handler.ActsAlike S) (m.handler? p) (m'.handler? (mirror p))

/-- A machine mirrors itself in surroundings that its handlers do not tell apart. -/
theorem mirrors_self
    {S : ω → ω → Prop}
    {m : Machine ω D}
    (hr : ∀ p h, m.handler? p = some h → h.Respects S) :
    m.Mirrors S m id where
  name_eq := rfl
  settings_eq := rfl
  injective := Function.injective_id
  row_eq := by
    intro p
    rw [id_eq]
    cases m.row? p <;> simp
  label_eq := fun _ => rfl
  acts := fun p => rel_self fun h hh => (hr p h hh).actsAlike

section Steps

variable {S : ω → ω → Prop} {m m' : Machine ω D} {mirror : StateId → StateId}
  {i i' : Instance ω D}

/-- An effect on the surroundings and the data of both. -/
theorem mirrored_withEffect
    (h : i.Mirrored S mirror i')
    {w w' : ω}
    (hrelated : S w w')
    (d : D) :
    (i.withEffect w d).Mirrored S mirror (i'.withEffect w' d) :=
  { h with data_eq := rfl, related := hrelated }

/-- A transition to mirrored targets. -/
theorem Mirrors.commit
    (hm : m.Mirrors S m' mirror)
    (h : i.Mirrored S mirror i')
    (target : StateId)
    (branch : Option Bool) :
    (m.commit target branch i).Mirrored S mirror
      (m'.commit (mirror target) branch i') where
  current_eq := rfl
  steps_eq := by
    simp [h.steps_eq]
  visits_eq := by
    intro p
    simp only [commit_visits, List.getElem?_modify, h.current_eq, h.visits_eq,
      hm.injective.eq_iff]
  data_eq := h.data_eq
  log_eq := by
    cases hrecord : m.settings.recordTransitions with
    | false =>
        have hrecord' : m'.settings.recordTransitions = false := by
          rw [hm.settings_eq, hrecord]
        rw [commit_log_of_not_recording _ _ _ _ hrecord,
          commit_log_of_not_recording _ _ _ _ hrecord', h.log_eq]
    | true =>
        have hrecord' : m'.settings.recordTransitions = true := by
          rw [hm.settings_eq, hrecord]
        rw [commit_log_of_recording _ _ _ _ hrecord,
          commit_log_of_recording _ _ _ _ hrecord', Log.untimed_push, Log.untimed_push,
          h.log_eq]
        simp [recordOf, Record.untimed, h.steps_eq, h.current_eq, hm.label_eq]
  related := h.related

theorem Mirrors.failed_eq
    (hm : m.Mirrors S m' mirror)
    (h : i.Mirrored S mirror i')
    (failure : Failure) :
    m'.failed i' failure = m.failed i failure := by
  simp [failed, h.current_eq, hm.label_eq]

theorem Mirrors.terminalStep_eq
    (hm : m.Mirrors S m' mirror)
    (h : i.Mirrored S mirror i') :
    m'.terminalStep i' = (m.terminalStep i).map (StepResult.rename mirror) := by
  unfold terminalStep
  rw [hm.settings_eq, hm.name_eq, h.current_eq, hm.label_eq]
  cases m.settings.terminalStep <;> rfl

/-- The actions of mirrored states do the same. -/
theorem Mirrors.runAction
    (hm : m.Mirrors S m' mirror)
    (h : i.Mirrored S mirror i') :
    (m'.runAction i').2 = (m.runAction i).2 ∧
    (m.runAction i).1.Mirrored S mirror (m'.runAction i').1 := by
  have hacts := hm.acts i.current
  rw [← h.current_eq] at hacts
  generalize hh : m.handler? i.current = o, hh' : m'.handler? i'.current = o' at hacts
  cases hacts with
  | none =>
      exact ⟨by simp [Machine.runAction, hh, hh', hm.failed_eq h],
        by simpa [Machine.runAction, hh, hh'] using h⟩
  | some hacts =>
      obtain ⟨hanswer, hrelated⟩ := hacts _ _ i.data h.related
      rw [m.runAction_of_handler hh, m'.runAction_of_handler hh', h.data_eq, ← hanswer,
        funext (hm.failed_eq h)]
      exact ⟨rfl, mirrored_withEffect h hrelated _⟩

/-- Handlers that answer alike as decisions do the same in mirrored states. -/
theorem Mirrors.evaluate
    (hm : m.Mirrors S m' mirror)
    (h : i.Mirrored S mirror i')
    (hanswers : Option.Rel (Handler.AnswersAlike S) (m.handler? i.current)
      (m'.handler? i'.current)) :
    (m'.evaluate i').2 = (m.evaluate i).2 ∧
    (m.evaluate i).1.Mirrored S mirror (m'.evaluate i').1 := by
  generalize hh : m.handler? i.current = o, hh' : m'.handler? i'.current = o' at hanswers
  cases hanswers with
  | none =>
      exact ⟨by simp [Machine.evaluate, hh, hh', hm.failed_eq h],
        by simpa [Machine.evaluate, hh, hh'] using h⟩
  | some hanswers =>
      obtain ⟨hanswer, hrelated⟩ := hanswers _ _ i.data h.related
      rw [m.evaluate_of_handler hh, m'.evaluate_of_handler hh', h.data_eq, ← hanswer,
        funext (hm.failed_eq h)]
      exact ⟨rfl, mirrored_withEffect h hrelated _⟩

/-- The decisions of mirrored states answer the same, if they are not asked or answer
alike. -/
theorem Mirrors.branchOutcome
    (hm : m.Mirrors S m' mirror)
    (h : i.Mirrored S mirror i')
    {forced : Option Bool}
    (hask : forced = none →
      Option.Rel (Handler.AnswersAlike S) (m.handler? i.current)
        (m'.handler? i'.current)) :
    (m'.branchOutcome forced i').2 = (m.branchOutcome forced i).2 ∧
    (m.branchOutcome forced i).1.Mirrored S mirror (m'.branchOutcome forced i').1 := by
  cases forced with
  | some outcome => exact ⟨rfl, h⟩
  | none => exact hm.evaluate h (hask rfl)

/-- Steps from mirrored states lead to mirrored states. -/
theorem Mirrors.advance
    (hm : m.Mirrors S m' mirror)
    (h : i.Mirrored S mirror i')
    {forced : Option Bool}
    (hcap : m.isComplete i = false → m'.checkCap i' = m.checkCap i)
    (hask : m.kind? i.current = some .decision → forced = none →
      Option.Rel (Handler.AnswersAlike S) (m.handler? i.current)
        (m'.handler? i'.current)) :
    (m'.advance forced i').2 =
      (m.advance forced i).2.map (StepResult.rename mirror) ∧
    (m.advance forced i).1.Mirrored S mirror (m'.advance forced i').1 := by
  have hrow' : m'.row? i'.current = (m.row? i.current).map (Row.rename mirror) := by
    rw [h.current_eq, hm.row_eq]
  have hopen : ∀ row, m.row? i.current = some row → row ≠ .terminal →
      m.isComplete i = false := by
    intro row hrow hkind
    simpa [← Bool.not_eq_true, isComplete_iff, hrow] using hkind
  unfold Machine.advance
  cases hrow : m.row? i.current with
  | none =>
      simpa [hrow', hrow] using ⟨hm.terminalStep_eq h, h⟩
  | some row =>
      rw [hrow', hrow, Option.map_some, Option.getD_some, Option.getD_some]
      cases row with
      | terminal =>
          exact ⟨hm.terminalStep_eq h, h⟩
      | action next =>
          obtain ⟨hresult, hafter⟩ := hm.runAction h
          simp only [Row.rename, hcap (hopen _ hrow (by simp))]
          rcases m.checkCap i with e | _
          · exact ⟨rfl, h⟩
          · rcases hrun : m.runAction i with ⟨j, result⟩
            rcases hrun' : m'.runAction i' with ⟨j', result'⟩
            rw [hrun, hrun'] at hresult hafter
            obtain rfl : result' = result := hresult
            cases result' with
            | error e =>
                exact ⟨rfl, hafter⟩
            | ok _ =>
                have hcurrent : j'.current = mirror j.current := hafter.current_eq
                exact ⟨by simp [Except.map, StepResult.rename, hcurrent],
                  hm.commit hafter next none⟩
      | decision onTrue onFalse =>
          have hdecision : m.kind? i.current = some .decision := by
            simp [kind?, hrow, Row.kind]
          obtain ⟨hresult, hafter⟩ := hm.branchOutcome h (hask hdecision)
          simp only [Row.rename, hcap (hopen _ hrow (by simp))]
          rcases m.checkCap i with e | _
          · exact ⟨rfl, h⟩
          · rcases hrun : m.branchOutcome forced i with ⟨j, result⟩
            rcases hrun' : m'.branchOutcome forced i' with ⟨j', result'⟩
            rw [hrun, hrun'] at hresult hafter
            obtain rfl : result' = result := hresult
            cases result' with
            | error e =>
                exact ⟨rfl, hafter⟩
            | ok outcome =>
                have htarget : (if outcome then mirror onTrue else mirror onFalse) =
                    mirror (if outcome then onTrue else onFalse) := by
                  cases outcome <;> rfl
                have hcurrent : j'.current = mirror j.current := hafter.current_eq
                simp only [htarget]
                exact ⟨by simp [Except.map, StepResult.rename, hcurrent],
                  hm.commit hafter _ (some outcome)⟩

end Steps

/-! ### Calls one after the other -/

/-- What steps answer one after the other.  Each asks the decision or has its outcome
forced. -/
def answers (m : Machine ω D) :
    List (Option Bool) → Instance ω D → List (Except RunError StepResult)
  | [], _ => []
  | forced :: rest, i =>
      (m.advance forced i).2 :: answers m rest (m.advance forced i).1

/-- What steps lead to one after the other, whatever they answer. -/
def after (m : Machine ω D) : List (Option Bool) → Instance ω D → Instance ω D
  | [], i => i
  | forced :: rest, i => after m rest (m.advance forced i).1

/-- The answer of a step that a cap refuses. -/
def CapRefuses (answer : Except RunError StepResult) : Prop :=
  ∃ violation, answer = .error (.visitLimitExceeded violation)

/-- Without rules no step is refused by a cap. -/
theorem not_capRefuses_of_no_rules
    (m : Machine ω D)
    {i : Instance ω D}
    (hrules : i.rules = {})
    (calls : List (Option Bool)) :
    ∀ answer ∈ m.answers calls i, ¬ CapRefuses answer := by
  induction calls generalizing i with
  | nil =>
      simp [answers]
  | cons forced rest ih =>
      have hspec := m.advance_spec forced i
      intro answer hanswer
      rcases List.mem_cons.1 hanswer with rfl | hanswer
      · rintro ⟨violation, hrefused⟩
        rw [hrefused] at hspec
        have hcap := hspec.checkCap_of_visitLimitExceeded
        rw [m.checkCap_of_no_rules hrules] at hcap
        cases hcap
      · exact ih (hspec.rules_eq.trans hrules) answer hanswer

section Calls

variable {S : ω → ω → Prop} {m m' : Machine ω D} {mirror : StateId → StateId}
  {i i' : Instance ω D}

/-- Where the mirror image has no rules, a step is mirrored unless a cap refuses it. -/
theorem Mirrors.advance_unruled
    (hm : m.Mirrors S m' mirror)
    (hanswers : ∀ p,
      Option.Rel (Handler.AnswersAlike S) (m.handler? p) (m'.handler? (mirror p)))
    (h : i.Mirrored S mirror i')
    (hrules : i'.rules = {})
    {forced : Option Bool}
    (hfree : ¬ CapRefuses (m.advance forced i).2) :
    (m'.advance forced i').2 =
      (m.advance forced i).2.map (StepResult.rename mirror) ∧
    (m.advance forced i).1.Mirrored S mirror (m'.advance forced i').1 := by
  apply hm.advance h
  · intro hopen
    rw [m'.checkCap_of_no_rules hrules]
    cases hcap : m.checkCap i with
    | ok _ =>
        rfl
    | error e =>
        obtain ⟨cap, visits, rfl⟩ := checkCap_error hcap
        rw [m.advance_of_checkCap_error hopen hcap] at hfree
        exact absurd ⟨_, rfl⟩ hfree
  · intro _ _
    rw [h.current_eq]
    exact hanswers i.current

/-- Where the mirror image has no rules, calls are mirrored until a cap refuses one. -/
theorem Mirrors.calls
    (hm : m.Mirrors S m' mirror)
    (hanswers : ∀ p,
      Option.Rel (Handler.AnswersAlike S) (m.handler? p) (m'.handler? (mirror p)))
    (h : i.Mirrored S mirror i')
    (hrules : i'.rules = {})
    {calls : List (Option Bool)}
    (hfree : ∀ answer ∈ m.answers calls i, ¬ CapRefuses answer) :
    m'.answers calls i' =
      (m.answers calls i).map (Except.map (StepResult.rename mirror)) ∧
    (m.after calls i).Mirrored S mirror (m'.after calls i') := by
  induction calls generalizing i i' with
  | nil =>
      exact ⟨rfl, h⟩
  | cons forced rest ih =>
      obtain ⟨hfirst, hrest⟩ := List.forall_mem_cons.1 hfree
      obtain ⟨hanswer, hafter⟩ := hm.advance_unruled hanswers h hrules hfirst
      obtain ⟨hlater, hend⟩ :=
        ih hafter ((m'.advance_spec forced i').rules_eq.trans hrules) hrest
      refine ⟨?_, hend⟩
      simp only [answers, hanswer, hlater, List.map_cons]

end Calls

end Machine
end Flowchart

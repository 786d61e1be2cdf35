import Flowchart.Proofs.Mirror
import Flowchart.Proofs.Stopping

/-!
# Instances in lockstep

Two machines that differ in their settings at most can be compared operation by
operation.  A relation between their instances is kept by all runs if it is kept by
steps, restarts and edits of visit rules, and if related instances stand in the same
state with the same counters, data and rules.  A run asks for its goal and for the end
of the machine before each step, so steps are compared only where the machine has not
halted, unless the operation is itself a step or a replay.

## Main results

* `Machine.Lockstep.perform` compares one operation.
* `Machine.Lockstep.performAll` compares operations one after the other.
* `Machine.lockstep_self` is the case of one machine, where all steps are compared.
-/

namespace Flowchart

variable {ω D : Type}

/-- The two instances stand in the same state, with the same counters, data and rules. -/
structure Instance.SameStanding (i i' : Instance ω D) : Prop where
  current_eq : i'.current = i.current
  steps_eq : i'.steps = i.steps
  visits_eq : i'.visits = i.visits
  data_eq : i'.data = i.data
  rules_eq : i'.rules = i.rules

/-- The two instances have the same run behind them, up to its times, and the same rules,
and their surroundings are related. -/
structure Instance.Repeats (S : ω → ω → Prop) (i i' : Instance ω D) : Prop
    extends i.SameRun i' where
  rules_eq : i'.rules = i.rules
  related : S i.surroundings i'.surroundings

theorem Instance.Repeats.standing
    {S : ω → ω → Prop}
    {i i' : Instance ω D}
    (h : i.Repeats S i') :
    i.SameStanding i' :=
  { h with }

/-- What an operation answers: a step its result, a run with a bound its ending, and
every other call whether it failed. -/
inductive Response where
  | stepped (result : Except RunError StepResult)
  | ended (ending : Ending)
  | finished (result : Except RunError Unit)

/-- The error of an operation, if it failed. -/
def Response.error? : Response → Option RunError
  | stepped result => errorOf result
  | ended ending => ending.error?
  | finished result => errorOf result

/-- The operations that do the same to related instances, where steps are compared at
some instances only.  What the owner of the data does to it is left out. -/
def Operation.InStep (Compared : Instance ω D → Prop)
    (R : Instance ω D → Instance ω D → Prop) (i : Instance ω D) : Operation ω D → Prop
  | step | replayStep _ => Compared i
  | replay _ => ∀ j, Compared j
  | runUntil _ condition => ∀ j j', R j j' → condition j' = condition j
  | setData _ _ | inject _ => False
  | _ => True

namespace Machine

/-- The machine with other settings. -/
def withSettings (m : Machine ω D) (settings : Settings) : Machine ω D :=
  { m with settings := settings }

/-- What an operation answers. -/
def response (m : Machine ω D) : Operation ω D → Instance ω D → Response
  | .step, i => .stepped (m.step i).2
  | .replayStep outcome, i => .stepped (m.replayStep outcome i).2
  | .runToCompletion bound, i => .ended (m.runToCompletion bound i).2
  | .runToState bound state, i => .ended (m.runToState bound state i).2
  | .runToStepCount count, i => .finished (m.runToStepCount count i).2
  | .runPastState bound state, i => .ended (m.runPastState bound state i).2
  | .runUntil bound condition, i => .ended (m.runUntil bound condition i).2
  | .capVisits state visits, i => .finished (m.capVisits state visits i).2
  | .requireVisits state visits, i => .finished (m.requireVisits state visits i).2
  | .replay log, i => .finished (m.replay log i).2
  | .inject input, i => .finished (m.inject input i).2
  | .clearVisitRules, _ | .restart, _ | .setData _ _, _ => .finished (.ok ())

theorem error?_response
    (m : Machine ω D)
    (op : Operation ω D)
    (i : Instance ω D) :
    (m.response op i).error? = (m.perform op i).2 := by
  cases op <;> rfl

/-- What operations answer one after the other. -/
def responses (m : Machine ω D) : List (Operation ω D) → Instance ω D → List Response
  | [], _ => []
  | op :: rest, i => m.response op i :: responses m rest (m.perform op i).1

/-- Each operation is as required at the instance that the ones before lead to. -/
def EachFrom (m : Machine ω D) (P : Instance ω D → Operation ω D → Prop) :
    List (Operation ω D) → Instance ω D → Prop
  | [], _ => True
  | op :: rest, i => P i op ∧ EachFrom m P rest (m.perform op i).1

theorem EachFrom.imp
    {m : Machine ω D}
    {P Q : Instance ω D → Operation ω D → Prop}
    (hPQ : ∀ i op, P i op → Q i op)
    {ops : List (Operation ω D)}
    {i : Instance ω D}
    (h : m.EachFrom P ops i) :
    m.EachFrom Q ops i := by
  induction ops generalizing i with
  | nil => trivial
  | cons op rest ih => exact ⟨hPQ i op h.1, ih h.2⟩

theorem eachFrom_of_forall
    (m : Machine ω D)
    {P : Operation ω D → Prop}
    {ops : List (Operation ω D)}
    (h : ∀ op ∈ ops, P op)
    (i : Instance ω D) :
    m.EachFrom (fun _ => P) ops i := by
  induction ops generalizing i with
  | nil =>
      trivial
  | cons op rest ih =>
      obtain ⟨hop, hrest⟩ := List.forall_mem_cons.1 h
      exact ⟨hop, ih hrest _⟩

/-- A relation between instances that the steps of two machines keep where they are
compared, and that restarts and edits of visit rules keep everywhere. -/
structure Lockstep (m m' : Machine ω D) (Compared : Instance ω D → Prop)
    (R : Instance ω D → Instance ω D → Prop) : Prop where
  alike : m' = m.withSettings m'.settings
  standing : ∀ {i i'}, R i i' → i.SameStanding i'
  compared : ∀ {i}, m.isComplete i = false → Compared i
  advance : ∀ {i i'}, R i i' → Compared i → ∀ forced,
    (m'.advance forced i').2 = (m.advance forced i).2 ∧
    R (m.advance forced i).1 (m'.advance forced i').1
  restart : ∀ {i i'}, R i i' → R (m.restart i) (m'.restart i')
  rules : ∀ {i i'}, R i i' → ∀ rules,
    R { i with rules := rules } { i' with rules := rules }

/-- A run that its bound stops ends without a verdict. -/
theorem verdict_of_drive_unfinished
    {m : Machine ω D}
    {verdict : Instance ω D → Option (Except RunError Unit)}
    (hjudges : m.Judges verdict)
    {bound : Nat}
    {i : Instance ω D}
    (h : (m.drive verdict bound i).2 = .unfinished) :
    verdict (m.drive verdict bound i).1 = none := by
  obtain ⟨count, k, -, -, hends⟩ := exists_steps_of_drive hjudges bound i
  rw [h] at hends
  generalize hending : Ending.unfinished = ending at hends
  generalize (m.drive verdict bound i).1 = j at hends ⊢
  cases hends with
  | @decided result hverdict =>
      cases result <;> cases hending
  | unfinished hverdict =>
      exact hverdict
  | failed =>
      cases hending

namespace Lockstep

variable {m m' : Machine ω D} {Compared : Instance ω D → Prop}
  {R : Instance ω D → Instance ω D → Prop} {i i' : Instance ω D}

theorem label_eq
    (h : m.Lockstep m' Compared R)
    (p : StateId) :
    m'.label p = m.label p := by
  rw [h.alike]
  rfl

theorem resolve_eq
    (h : m.Lockstep m' Compared R)
    (text : String) :
    m'.resolve text = m.resolve text := by
  rw [h.alike]
  rfl

theorem isComplete_eq
    (h : m.Lockstep m' Compared R)
    (hR : R i i') :
    m'.isComplete i' = m.isComplete i := by
  rw [h.alike, isComplete, (h.standing hR).current_eq]
  rfl

theorem unreachable_eq
    (h : m.Lockstep m' Compared R)
    (hR : R i i')
    (target : String) :
    m'.unreachable target i' = m.unreachable target i := by
  rw [unreachable, h.label_eq, (h.standing hR).current_eq]
  rfl

theorem checkQuotas_eq
    (h : m.Lockstep m' Compared R)
    (hR : R i i') :
    m'.checkQuotas i' = m.checkQuotas i := by
  unfold checkQuotas
  rw [funext h.label_eq, (h.standing hR).rules_eq, (h.standing hR).visits_eq]

/-- A run goes on and ends alike if its verdicts are alike. -/
theorem drive
    (h : m.Lockstep m' Compared R)
    {verdict verdict' : Instance ω D → Option (Except RunError Unit)}
    (hjudges : m.Judges verdict)
    (hverdict : ∀ {i i'}, R i i' → verdict' i' = verdict i)
    (bound : Nat)
    (hR : R i i') :
    (m'.drive verdict' bound i').2 = (m.drive verdict bound i).2 ∧
    R (m.drive verdict bound i).1 (m'.drive verdict' bound i').1 := by
  induction bound generalizing i i' with
  | zero =>
      unfold Machine.drive
      rw [hverdict hR]
      cases verdict i <;> exact ⟨rfl, hR⟩
  | succ bound ih =>
      unfold Machine.drive
      rw [hverdict hR]
      cases hnext : verdict i with
      | some result =>
          exact ⟨rfl, hR⟩
      | none =>
          obtain ⟨hresult, hafter⟩ :=
            h.advance hR (h.compared (hjudges.goes_on hnext)) none
          simp only [Machine.step]
          rcases hstep : m.advance none i with ⟨j, result⟩
          rcases hstep' : m'.advance none i' with ⟨j', result'⟩
          rw [hstep, hstep'] at hresult hafter
          obtain rfl : result' = result := hresult
          cases result' with
          | error e => exact ⟨rfl, hafter⟩
          | ok _ => exact ih hafter

theorem driveTo
    (h : m.Lockstep m' Compared R)
    {goal goal' : Instance ω D → Bool}
    (hgoal : ∀ {i i'}, R i i' → goal' i' = goal i)
    {target : String}
    (htarget : m.Goal target)
    (bound : Nat)
    (hR : R i i') :
    (m'.driveTo goal' (m'.unreachable target) bound i').2 =
      (m.driveTo goal (m.unreachable target) bound i).2 ∧
    R (m.driveTo goal (m.unreachable target) bound i).1
      (m'.driveTo goal' (m'.unreachable target) bound i').1 := by
  refine h.drive (m.judges_goal goal htarget) ?_ bound hR
  intro i i' hR
  rw [hgoal hR, h.isComplete_eq hR, h.unreachable_eq hR]

theorem runToCompletion
    (h : m.Lockstep m' Compared R)
    (bound : Nat)
    (hR : R i i') :
    (m'.runToCompletion bound i').2 = (m.runToCompletion bound i).2 ∧
    R (m.runToCompletion bound i).1 (m'.runToCompletion bound i').1 := by
  refine h.drive m.judges_completion ?_ bound hR
  intro i i' hR
  rw [h.isComplete_eq hR, h.checkQuotas_eq hR]

theorem runToState
    (h : m.Lockstep m' Compared R)
    (bound : Nat)
    (state : String)
    (hR : R i i') :
    (m'.runToState bound state i').2 = (m.runToState bound state i).2 ∧
    R (m.runToState bound state i).1 (m'.runToState bound state i').1 := by
  unfold Machine.runToState
  rw [h.resolve_eq]
  cases hid : m.resolve state with
  | error e =>
      exact ⟨rfl, hR⟩
  | ok id =>
      simp only [h.label_eq]
      refine h.driveTo ?_ (.state hid) bound hR
      intro i i' hR
      rw [(h.standing hR).current_eq]

theorem drivePast
    (h : m.Lockstep m' Compared R)
    (id : StateId)
    (bound : Nat)
    (hR : R i i') :
    (m'.drivePast id bound i').2 = (m.drivePast id bound i).2 ∧
    R (m.drivePast id bound i).1 (m'.drivePast id bound i').1 := by
  have hcurrent : ∀ {i i'}, R i i' → i'.current = i.current := fun hR =>
    (h.standing hR).current_eq
  induction bound generalizing i i' with
  | zero =>
      unfold Machine.drivePast
      rw [h.isComplete_eq hR, h.label_eq, h.label_eq, hcurrent hR]
      cases m.isComplete i <;> exact ⟨rfl, hR⟩
  | succ bound ih =>
      unfold Machine.drivePast
      rw [h.isComplete_eq hR, h.label_eq, h.label_eq, hcurrent hR]
      cases hcomplete : m.isComplete i with
      | true =>
          exact ⟨rfl, hR⟩
      | false =>
          obtain ⟨hresult, hafter⟩ := h.advance hR (h.compared hcomplete) none
          simp only [Machine.step]
          rcases hstep : m.advance none i with ⟨j, result⟩
          rcases hstep' : m'.advance none i' with ⟨j', result'⟩
          rw [hstep, hstep'] at hresult hafter
          obtain rfl : result' = result := hresult
          cases result' with
          | error e =>
              exact ⟨rfl, hafter⟩
          | ok _ =>
              by_cases hpast : i.current = id
              · simpa [hpast] using hafter
              · simpa [hpast] using ih hafter

theorem runPastState
    (h : m.Lockstep m' Compared R)
    (bound : Nat)
    (state : String)
    (hR : R i i') :
    (m'.runPastState bound state i').2 = (m.runPastState bound state i).2 ∧
    R (m.runPastState bound state i).1 (m'.runPastState bound state i').1 := by
  unfold Machine.runPastState
  rw [h.resolve_eq]
  cases m.resolve state with
  | error e =>
      exact ⟨rfl, hR⟩
  | ok id =>
      exact h.drivePast id bound hR

theorem takeSteps
    (h : m.Lockstep m' Compared R)
    (target : String)
    (count : Nat)
    (hR : R i i') :
    (m'.takeSteps target count i').2 = (m.takeSteps target count i).2 ∧
    R (m.takeSteps target count i).1 (m'.takeSteps target count i').1 := by
  induction count generalizing i i' with
  | zero =>
      exact ⟨rfl, hR⟩
  | succ count ih =>
      unfold Machine.takeSteps
      rw [h.isComplete_eq hR]
      cases hcomplete : m.isComplete i with
      | true =>
          exact ⟨by simp [h.unreachable_eq hR], by simpa using hR⟩
      | false =>
          obtain ⟨hresult, hafter⟩ := h.advance hR (h.compared hcomplete) none
          simp only [Machine.step, Bool.false_eq_true, if_false]
          rcases hstep : m.advance none i with ⟨j, result⟩
          rcases hstep' : m'.advance none i' with ⟨j', result'⟩
          rw [hstep, hstep'] at hresult hafter
          obtain rfl : result' = result := hresult
          cases result' with
          | error e => exact ⟨rfl, hafter⟩
          | ok _ => exact ih hafter

theorem runToStepCount
    (h : m.Lockstep m' Compared R)
    (count : Nat)
    (hR : R i i') :
    (m'.runToStepCount count i').2 = (m.runToStepCount count i).2 ∧
    R (m.runToStepCount count i).1 (m'.runToStepCount count i').1 := by
  unfold Machine.runToStepCount
  rw [(h.standing hR).steps_eq]
  split_ifs with hpassed
  · exact ⟨rfl, hR⟩
  · exact h.takeSteps _ _ hR

/-- A record is replayed alike where steps are compared everywhere. -/
theorem replayRecord
    (h : m.Lockstep m' Compared R)
    (hall : ∀ j, Compared j)
    (r : Record)
    (hR : R i i') :
    (m'.replayRecord r i').2 = (m.replayRecord r i).2 ∧
    R (m.replayRecord r i).1 (m'.replayRecord r i').1 := by
  unfold Machine.replayRecord
  rw [h.label_eq, (h.standing hR).current_eq]
  by_cases hsource : m.label i.current = r.source
  · obtain ⟨hresult, hafter⟩ := h.advance hR (hall i) r.branch
    simp only [hsource, ne_eq, not_true, if_false, h.label_eq]
    rcases hstep : m.advance r.branch i with ⟨j, result⟩
    rcases hstep' : m'.advance r.branch i' with ⟨j', result'⟩
    rw [hstep, hstep'] at hresult hafter
    obtain rfl : result' = result := hresult
    cases result' with
    | error e => exact ⟨rfl, hafter⟩
    | ok result =>
        dsimp only
        split_ifs <;> exact ⟨rfl, hafter⟩
  · simpa [hsource] using hR

theorem replayRecords
    (h : m.Lockstep m' Compared R)
    (hall : ∀ j, Compared j)
    (records : List Record)
    (hR : R i i') :
    (m'.replayRecords records i').2 = (m.replayRecords records i).2 ∧
    R (m.replayRecords records i).1 (m'.replayRecords records i').1 := by
  induction records generalizing i i' with
  | nil =>
      exact ⟨rfl, hR⟩
  | cons r rest ih =>
      obtain ⟨hresult, hafter⟩ := h.replayRecord hall r hR
      unfold Machine.replayRecords
      rcases hrecord : m.replayRecord r i with ⟨j, result⟩
      rcases hrecord' : m'.replayRecord r i' with ⟨j', result'⟩
      rw [hrecord, hrecord'] at hresult hafter
      obtain rfl : result' = result := hresult
      cases result' with
      | error e => exact ⟨rfl, hafter⟩
      | ok _ => exact ih hafter

/-- An operation answers alike and leaves related instances behind. -/
theorem perform
    (h : m.Lockstep m' Compared R)
    {op : Operation ω D}
    (hop : op.InStep Compared R i)
    (hR : R i i') :
    m'.response op i' = m.response op i ∧
    R (m.perform op i).1 (m'.perform op i').1 := by
  cases op with
  | step =>
      obtain ⟨hresult, hafter⟩ := h.advance hR hop none
      exact ⟨congrArg _ hresult, hafter⟩
  | replayStep outcome =>
      obtain ⟨hresult, hafter⟩ := h.advance hR hop (some outcome)
      exact ⟨congrArg _ hresult, hafter⟩
  | runToCompletion bound =>
      obtain ⟨hending, hafter⟩ := h.runToCompletion bound hR
      exact ⟨congrArg _ hending, hafter⟩
  | runToState bound state =>
      obtain ⟨hending, hafter⟩ := h.runToState bound state hR
      exact ⟨congrArg _ hending, hafter⟩
  | runToStepCount count =>
      obtain ⟨hresult, hafter⟩ := h.runToStepCount count hR
      exact ⟨congrArg _ hresult, hafter⟩
  | runPastState bound state =>
      obtain ⟨hending, hafter⟩ := h.runPastState bound state hR
      exact ⟨congrArg _ hending, hafter⟩
  | runUntil bound condition =>
      obtain ⟨hending, hafter⟩ := h.driveTo (hop _ _) .condition bound hR
      exact ⟨congrArg _ hending, hafter⟩
  | replay log =>
      obtain ⟨hresult, hafter⟩ := h.replayRecords hop log.records.toList hR
      exact ⟨congrArg _ hresult, hafter⟩
  | capVisits state visits | requireVisits state visits =>
      simp only [response, Machine.perform, capVisits, requireVisits, h.resolve_eq,
        (h.standing hR).rules_eq]
      cases m.resolve state with
      | ok id => exact ⟨rfl, h.rules hR _⟩
      | error e => exact ⟨rfl, hR⟩
  | clearVisitRules =>
      exact ⟨rfl, h.rules hR _⟩
  | restart =>
      exact ⟨rfl, h.restart hR⟩
  | setData | inject =>
      exact hop.elim

/-- Operations one after the other answer alike and leave related instances behind. -/
theorem performAll
    (h : m.Lockstep m' Compared R)
    {ops : List (Operation ω D)}
    (hops : m.EachFrom (fun i op => op.InStep Compared R i) ops i)
    (hR : R i i') :
    m'.responses ops i' = m.responses ops i ∧
    R (m.performAll ops i) (m'.performAll ops i') := by
  induction ops generalizing i i' with
  | nil =>
      exact ⟨rfl, hR⟩
  | cons op rest ih =>
      obtain ⟨hfirst, hafter⟩ := h.perform hops.1 hR
      obtain ⟨hlater, hend⟩ := ih hops.2 hafter
      refine ⟨?_, hend⟩
      rw [responses, responses, hfirst, hlater]

end Lockstep

/-- Instances of one machine that have the same run behind them and the same rules keep
having them. -/
theorem lockstep_self
    {S : ω → ω → Prop}
    {m : Machine ω D}
    (hr : ∀ p h, m.handler? p = some h → h.Respects S) :
    m.Lockstep m (fun _ => True) (Instance.Repeats S) where
  alike := rfl
  standing := fun h => h.standing
  compared := fun _ => trivial
  advance := by
    intro i i' h _ forced
    have hcap : m.checkCap i' = m.checkCap i := by
      simp only [checkCap, h.rules_eq, h.current_eq, h.visits_eq]
    have hask : m.kind? i.current = some .decision → forced = none →
        Option.Rel (Handler.AnswersAlike S) (m.handler? i.current)
          (m.handler? i'.current) := by
      intro _ _
      rw [h.current_eq]
      exact rel_self fun handler hh => (hr _ handler hh).answersAlike
    obtain ⟨hresult, hafter⟩ := (mirrors_self hr).advance
      (h.toSameRun.mirrored h.related) (fun _ => hcap) hask
    refine ⟨by simpa using hresult, { hafter.sameRun with
      rules_eq := ?_
      related := hafter.related }⟩
    rw [(m.advance_spec forced i').rules_eq, (m.advance_spec forced i).rules_eq,
      h.rules_eq]
  restart := fun h =>
    { h with
      current_eq := rfl
      steps_eq := rfl
      visits_eq := by simp [restart, h.visits_eq]
      log_eq := rfl }
  rules := fun h _ => { h with rules_eq := rfl }

end Machine
end Flowchart

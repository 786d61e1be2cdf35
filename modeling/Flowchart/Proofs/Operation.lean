import Flowchart.Proofs.Course

/-!
# Operations and reachable instances

An operation is one call on an instance.  The operations that travel take steps, and
what they do is a course.  The others edit the visit rules, the surroundings or the
data, or begin the next run.

A relation that every step keeps, and that can be composed, is kept by each course.
`StepClosed` says this of a relation.  The courses may be allowed only some of their
outcomes, for instance those in which no action failed: a course stops at the first
error, so the steps before its last report none.
-/

namespace Flowchart

variable {ω D : Type}

/-- One call on an instance.  A run that need not end has a bound on its steps. -/
inductive Operation (ω D : Type) where
  | step
  | replayStep (outcome : Bool)
  | runToCompletion (bound : Nat)
  | runToState (bound : Nat) (state : String)
  | runToStepCount (count : Nat)
  | runPastState (bound : Nat) (state : String)
  | runUntil (bound : Nat) (condition : Instance ω D → Bool)
  | capVisits (state : String) (visits : Nat)
  | requireVisits (state : String) (visits : Nat)
  | clearVisitRules
  | replay (log : Log)
  | restart
  | setData (surroundings : ω) (data : D)
  | inject (input : String)

namespace Operation

/-- The operations that play a machine: steps, runs of steps and visit rules. -/
def Plays : Operation ω D → Prop
  | replay _ | restart | setData _ _ | inject _ => False
  | _ => True

/-- The operations that take steps. -/
def Travels : Operation ω D → Prop
  | capVisits _ _ | requireVisits _ _ | clearVisitRules | restart | setData _ _
  | inject _ => False
  | _ => True

end Operation

namespace Machine

/-- What an operation does to an instance, and the error that it reports. -/
def perform (m : Machine ω D) :
    Operation ω D → Instance ω D → Instance ω D × Option RunError
  | .step, i => ((m.step i).1, errorOf (m.step i).2)
  | .replayStep outcome, i =>
      ((m.replayStep outcome i).1, errorOf (m.replayStep outcome i).2)
  | .runToCompletion bound, i =>
      ((m.runToCompletion bound i).1, (m.runToCompletion bound i).2.error?)
  | .runToState bound state, i =>
      ((m.runToState bound state i).1, (m.runToState bound state i).2.error?)
  | .runToStepCount count, i =>
      ((m.runToStepCount count i).1, errorOf (m.runToStepCount count i).2)
  | .runPastState bound state, i =>
      ((m.runPastState bound state i).1, (m.runPastState bound state i).2.error?)
  | .runUntil bound condition, i =>
      ((m.runUntil bound condition i).1, (m.runUntil bound condition i).2.error?)
  | .capVisits state visits, i =>
      ((m.capVisits state visits i).1, errorOf (m.capVisits state visits i).2)
  | .requireVisits state visits, i =>
      ((m.requireVisits state visits i).1, errorOf (m.requireVisits state visits i).2)
  | .clearVisitRules, i => (clearVisitRules i, none)
  | .replay log, i => ((m.replay log i).1, errorOf (m.replay log i).2)
  | .restart, i => (m.restart i, none)
  | .setData w d, i => (i.withEffect w d, none)
  | .inject input, i => ((m.inject input i).1, errorOf (m.inject input i).2)

/-- The transitions that an operation takes, in order. -/
def transitions (m : Machine ω D) : Operation ω D → Instance ω D → List Transition
  | .step, i => m.stepTransitions none i
  | .replayStep outcome, i => m.stepTransitions (some outcome) i
  | .runToCompletion bound, i => m.runTransitions m.isComplete bound i
  | .runToState bound state, i =>
      match m.resolve state with
      | .ok id => m.runTransitions (fun i => i.current = id || m.isComplete i) bound i
      | .error _ => []
  | .runToStepCount count, i => m.runTransitions m.isComplete (count - i.steps) i
  | .runPastState bound state, i =>
      match m.resolve state with
      | .ok id => m.pastTransitions id bound i
      | .error _ => []
  | .runUntil bound condition, i =>
      m.runTransitions (fun i => condition i || m.isComplete i) bound i
  | .replay log, i => m.replayTransitions log.records.toList i
  | _, _ => []

/-- The instances that operations lead to. -/
inductive Reachable (m : Machine ω D) : Instance ω D → Prop
  | start (w : ω) (d : D) :
      Reachable m (m.newInstance w d)
  | perform {i : Instance ω D} (op : Operation ω D) :
      Reachable m i →
      Reachable m (m.perform op i).1

/-- The transitions since a run began, after one operation more. -/
def historyAfter (m : Machine ω D) (op : Operation ω D) (i : Instance ω D)
    (history : List Transition) : List Transition :=
  match op with
  | .restart => []
  | _ => history ++ m.transitions op i

/-- The instances that operations lead to, with the transitions since their creation
or their last restart. -/
inductive History (m : Machine ω D) : List Transition → Instance ω D → Prop
  | start (w : ω) (d : D) :
      History m [] (m.newInstance w d)
  | perform {history : List Transition} {i : Instance ω D} (op : Operation ω D) :
      History m history i →
      History m (m.historyAfter op i history) (m.perform op i).1

/-- An operation that does not restart goes on with the history. -/
theorem historyAfter_of_ne_restart
    (m : Machine ω D)
    {op : Operation ω D}
    (hop : op ≠ .restart)
    (i : Instance ω D)
    (history : List Transition) :
    m.historyAfter op i history = history ++ m.transitions op i := by
  cases op <;> first | rfl | exact absurd rfl hop

theorem transitions_of_not_travels
    (m : Machine ω D)
    {op : Operation ω D}
    (hop : ¬ op.Travels)
    (i : Instance ω D) :
    m.transitions op i = [] := by
  cases op <;> first | rfl | exact absurd trivial hop

/-- Every reachable instance has a history. -/
theorem Reachable.exists_history
    {m : Machine ω D}
    {i : Instance ω D}
    (hi : m.Reachable i) :
    ∃ history, m.History history i := by
  induction hi with
  | start w d =>
      exact ⟨[], .start w d⟩
  | perform op _ ih =>
      obtain ⟨history, hhistory⟩ := ih
      exact ⟨_, .perform op hhistory⟩

/-- An operation that travels is a course. -/
theorem course_of_travels
    (m : Machine ω D)
    {op : Operation ω D}
    (hop : op.Travels)
    (i : Instance ω D) :
    m.Course i (m.transitions op i) (m.perform op i).2 (m.perform op i).1 := by
  cases op with
  | step =>
      exact m.course_advance none i
  | replayStep outcome =>
      exact m.course_advance (some outcome) i
  | runToCompletion bound =>
      exact m.course_runToCompletion bound i
  | runToState bound state =>
      simp only [transitions, perform, runToState]
      cases hid : m.resolve state with
      | ok id => exact m.course_driveTo _ (.state hid) bound i
      | error e => exact .refused (.unknown hid)
  | runToStepCount count =>
      exact m.course_runToStepCount count i
  | runPastState bound state =>
      simp only [transitions, perform, runPastState]
      cases hid : m.resolve state with
      | ok id => exact m.course_drivePast hid bound i
      | error e => exact .refused (.unknown hid)
  | runUntil bound condition =>
      exact m.course_driveTo condition .condition bound i
  | replay log =>
      exact m.course_replayRecords _ i
  | capVisits | requireVisits | clearVisitRules | restart | setData | inject =>
      exact hop.elim

/-- What operations do to visit rules. -/
inductive RuleEdit (m : Machine ω D) (rules : VisitRules) : VisitRules → Prop
  | keep :
      RuleEdit m rules rules
  | cap {text : String} {id : StateId} (hid : m.resolve text = .ok id) (visits : Nat) :
      RuleEdit m rules (rules.setCap id visits)
  | quota {text : String} {id : StateId} (hid : m.resolve text = .ok id) (visits : Nat) :
      RuleEdit m rules (rules.setQuota id visits)
  | clear :
      RuleEdit m rules {}

/-- An operation that does not travel begins the next run, or touches nothing but
the surroundings, the data and the visit rules. -/
theorem perform_of_not_travels
    (m : Machine ω D)
    {op : Operation ω D}
    (hop : ¬ op.Travels)
    (i : Instance ω D) :
    (op = .restart ∧ (m.perform op i).1 = m.restart i) ∨
    (op ≠ .restart ∧ ∃ w d rules, m.RuleEdit i.rules rules ∧
      (m.perform op i).1 = { i.withEffect w d with rules := rules }) := by
  cases op with
  | capVisits state visits =>
      refine .inr ⟨by simp, i.surroundings, i.data, ?_⟩
      simp only [perform, capVisits]
      cases hid : m.resolve state with
      | ok id => exact ⟨_, .cap hid visits, rfl⟩
      | error e => exact ⟨_, .keep, rfl⟩
  | requireVisits state visits =>
      refine .inr ⟨by simp, i.surroundings, i.data, ?_⟩
      simp only [perform, requireVisits]
      cases hid : m.resolve state with
      | ok id => exact ⟨_, .quota hid visits, rfl⟩
      | error e => exact ⟨_, .keep, rfl⟩
  | clearVisitRules =>
      exact .inr ⟨by simp, i.surroundings, i.data, _, .clear, rfl⟩
  | restart =>
      exact .inl ⟨rfl, rfl⟩
  | setData w d =>
      exact .inr ⟨by simp, w, d, _, .keep, rfl⟩
  | inject input =>
      refine .inr ⟨by simp, ?_⟩
      simp only [perform, inject]
      rcases m.hooks.inject (m.label i.current) input i.surroundings i.data with
        ⟨w, d, result⟩
      cases result <;> exact ⟨w, d, _, .keep, rfl⟩
  | _ =>
      exact absurd trivial hop

/-! ### What steps keep -/

/-- A relation that composes and that every step with an allowed outcome keeps. -/
structure StepClosed (m : Machine ω D)
    (Allowed : Instance ω D → Option RunError → Prop)
    (R : Instance ω D → Instance ω D → Prop) : Prop where
  refl : ∀ i, R i i
  trans : ∀ i j k, R i j → R j k → R i k
  silent : ∀ i, Allowed i none
  advance : ∀ forced i,
    Allowed (m.advance forced i).1 (errorOf (m.advance forced i).2) →
    R i (m.advance forced i).1

namespace StepClosed

variable {m : Machine ω D}
  {Allowed : Instance ω D → Option RunError → Prop}
  {R : Instance ω D → Instance ω D → Prop}

/-- A course keeps what every allowed step keeps. -/
theorem of_course
    (hc : m.StepClosed Allowed R)
    {i j : Instance ω D}
    {taken : List Transition}
    {e : Option RunError}
    (hcourse : m.Course i taken e j)
    (hok : Allowed j e) :
    R i j := by
  induction hcourse with
  | stay i =>
      exact hc.refl i
  | refused h =>
      exact hc.refl _
  | @failed i j forced e h =>
      have hadvance := hc.advance forced i
      rw [h] at hadvance
      exact hadvance hok
  | @step i j k forced result rest e h _ ih =>
      have hadvance := hc.advance forced i
      rw [h] at hadvance
      exact hc.trans _ _ _ (hadvance (hc.silent j)) (ih hok)

/-- Playing a machine keeps what every allowed step keeps. -/
theorem perform_of_plays
    (hc : m.StepClosed Allowed R)
    (hrules : ∀ (i : Instance ω D) rules, R i { i with rules := rules })
    {op : Operation ω D}
    (hop : op.Plays)
    (i : Instance ω D)
    (hok : Allowed (m.perform op i).1 (m.perform op i).2) :
    R i (m.perform op i).1 := by
  cases op with
  | capVisits state visits =>
      simp only [Machine.perform, capVisits]
      cases m.resolve state with
      | ok id => exact hrules i _
      | error e => exact hc.refl i
  | requireVisits state visits =>
      simp only [Machine.perform, requireVisits]
      cases m.resolve state with
      | ok id => exact hrules i _
      | error e => exact hc.refl i
  | clearVisitRules =>
      exact hrules i _
  | replay | restart | setData | inject =>
      exact hop.elim
  | _ =>
      refine hc.of_course (m.course_of_travels ?_ i) hok
      trivial

end StepClosed

/-- Any number of changes is kept by steps. -/
theorem stepClosed_evolves
    (m : Machine ω D) :
    m.StepClosed (fun _ _ => True) m.Evolves where
  refl _ := .refl
  trans _ _ _ := .trans
  silent _ := trivial
  advance forced i _ := (m.advance_spec forced i).evolves

/-- Any number of moves is kept by steps in which no action fails. -/
theorem stepClosed_moves
    (m : Machine ω D) :
    m.StepClosed (fun i e => ¬ m.ActionFailed i e) (Relation.ReflTransGen m.Move) where
  refl _ := .refl
  trans _ _ _ := .trans
  silent _ := id
  advance forced i := (m.advance_spec forced i).moves

/-- Steps leave the visit rules alone. -/
theorem stepClosed_rules
    (m : Machine ω D) :
    m.StepClosed (fun _ _ => True) (fun i j => j.rules = i.rules) where
  refl _ := rfl
  trans _ _ _ hij hjk := hjk.trans hij
  silent _ := trivial
  advance forced i _ := (m.advance_spec forced i).rules_eq

/-- Every operation is a number of changes. -/
theorem perform_evolves
    (m : Machine ω D)
    (op : Operation ω D)
    (i : Instance ω D) :
    m.Evolves i (m.perform op i).1 := by
  by_cases hop : op.Travels
  · exact m.stepClosed_evolves.of_course (m.course_of_travels hop i) trivial
  · rcases m.perform_of_not_travels hop i with
      ⟨-, hrestart⟩ | ⟨-, w, d, rules, -, hedited⟩
    · rw [hrestart]
      exact .single (.restart i)
    · rw [hedited]
      exact .tail (.single (.effect i w d)) (.rules _ rules)

/-- A property of new instances that every change keeps holds of all reachable
instances. -/
theorem Reachable.invariant
    {m : Machine ω D}
    {P : Instance ω D → Prop}
    (hstart : ∀ w d, P (m.newInstance w d))
    (hchange : ∀ i j, m.Change i j → P i → P j)
    {i : Instance ω D}
    (hi : m.Reachable i) :
    P i := by
  induction hi with
  | start w d =>
      exact hstart w d
  | perform op _ ih =>
      exact keeps_of_reflTransGen hchange (m.perform_evolves op _) ih

/-- A property of no visit rules that every edit keeps holds of the visit rules of all
reachable instances. -/
theorem Reachable.rules_invariant
    {m : Machine ω D}
    {P : VisitRules → Prop}
    (hnone : P {})
    (hedit : ∀ rules rules', m.RuleEdit rules rules' → P rules → P rules')
    {i : Instance ω D}
    (hi : m.Reachable i) :
    P i.rules := by
  induction hi with
  | start w d =>
      exact hnone
  | @perform i op _ ih =>
      by_cases hop : op.Travels
      · have hrules : (m.perform op i).1.rules = i.rules :=
          m.stepClosed_rules.of_course (m.course_of_travels hop i) trivial
        rwa [hrules]
      · rcases m.perform_of_not_travels hop i with
          ⟨-, hrestart⟩ | ⟨-, w, d, rules, hrules, hedited⟩
        · rw [hrestart]
          exact ih
        · rw [hedited]
          exact hedit _ _ hrules ih

/-- A reachable instance stands in a state of its machine. -/
theorem Reachable.current_lt
    {m : Machine ω D}
    (hm : m.WellFormed)
    {i : Instance ω D}
    (hi : m.Reachable i) :
    i.current < m.states.length := by
  apply hi.invariant (P := fun i => i.current < m.states.length)
  · intro w d
    exact hm.start_lt
  · intro i j hchange hlt
    cases hchange with
    | effect | rules => exact hlt
    | restart => exact hm.start_lt
    | commit hcap hedge => exact hedge.target_lt hm

end Machine
end Flowchart

import Flowchart.Proofs.Mirror
import Flowchart.Proofs.Stopping

/-!
# Visit rules only observe

A cap is checked before a step does anything, and a quota only when the machine has
halted.  So an instance with visit rules does what it would do without them, until a cap
refuses a step, and that step leaves it as it was.  A run to completion that a cap does
not stop differs at most in its verdict: without rules there is no quota to miss.
-/

namespace Flowchart

variable {ω D : Type}

/-- The times of a log play no part in its path. -/
theorem Log.path_untimed
    (log : Log) :
    log.untimed.path = log.path := by
  unfold path untimed
  rw [Array.toList_map]
  cases log.records.toList with
  | nil => rfl
  | cons first rest => simp [Record.untimed]

theorem Instance.SameRun.path_eq
    {i i' : Instance ω D}
    (h : i.SameRun i') :
    i'.log.path = i.log.path := by
  rw [← Log.path_untimed, h.log_eq, Log.path_untimed]

/-- The ending of the same run where no quota is checked. -/
def Ending.pardoned : Ending → Ending
  | failed (.visitCountMismatch _) => done
  | ending => ending

namespace Machine

section Unruled

variable {S : ω → ω → Prop} {m : Machine ω D} {i i' : Instance ω D}

theorem checkQuotas_of_no_rules
    (m : Machine ω D)
    (hrules : i.rules = {}) :
    m.checkQuotas i = .ok () := by
  simp [checkQuotas, hrules, VisitRules.unmet]

/-- Quotas are not checked by steps. -/
theorem Advance.ne_visitCountMismatch
    (hm : m.WellFormed)
    {forced : Option Bool}
    {j : Instance ω D}
    {e : RunError}
    (h : m.Advance forced i j (.error e))
    (violations : List Violation) :
    e ≠ .visitCountMismatch violations := by
  rcases h.error_cases hm with rfl | ⟨_, _, rfl⟩ | ⟨_, _, -, -, -, rfl⟩ <;> simp [failed]

/-- Handlers that respect a relation answer alike in surroundings so related. -/
theorem answersAlike_self
    (hr : ∀ p h, m.handler? p = some h → h.Respects S)
    (p : StateId) :
    Option.Rel (Handler.AnswersAlike S) (m.handler? p) (m.handler? (id p)) :=
  rel_self fun h hh => (hr p h hh).answersAlike

/-- An instance has halted exactly where its mirror image has. -/
theorem isComplete_eq_of_mirrored
    (h : i.Mirrored S id i') :
    m.isComplete i' = m.isComplete i := by
  rw [isComplete, h.current_eq]
  rfl

theorem runToCompletion_of_complete
    (m : Machine ω D)
    (hcomplete : m.isComplete i = true)
    (bound : Nat) :
    m.runToCompletion bound i = (i, .ofExcept (m.checkQuotas i)) := by
  unfold runToCompletion drive
  simp [hcomplete]

theorem runToCompletion_zero_of_open
    (m : Machine ω D)
    (hopen : m.isComplete i = false) :
    m.runToCompletion 0 i = (i, .unfinished) := by
  unfold runToCompletion drive
  simp [hopen]

theorem runToCompletion_succ_of_open
    (m : Machine ω D)
    (hopen : m.isComplete i = false)
    (bound : Nat) :
    m.runToCompletion (bound + 1) i =
      match m.advance none i with
      | (j, .ok _) => m.runToCompletion bound j
      | (j, .error e) => (j, .failed e) := by
  unfold runToCompletion
  rw [drive]
  simp only [hopen, Bool.false_eq_true, if_false]
  rfl

/-- Where the machine has halted, quotas make the only difference. -/
theorem runToCompletion_unruled_of_complete
    (h : i.Mirrored S id i')
    (hrules : i'.rules = {})
    (hcomplete : m.isComplete i = true)
    (bound : Nat) :
    (m.runToCompletion bound i').2 = (m.runToCompletion bound i).2.pardoned ∧
    (m.runToCompletion bound i).1.Mirrored S id (m.runToCompletion bound i').1 := by
  have hcomplete' := (isComplete_eq_of_mirrored h).trans hcomplete
  rw [m.runToCompletion_of_complete hcomplete, m.runToCompletion_of_complete hcomplete',
    m.checkQuotas_of_no_rules hrules]
  refine ⟨?_, h⟩
  cases hquotas : m.checkQuotas i with
  | ok _ =>
      rfl
  | error e =>
      obtain rfl := checkQuotas_error hquotas
      rfl

/-- Without rules an instance runs to completion as it does with them, unless a cap
stops it there, and no quota is checked in the end. -/
theorem runToCompletion_unruled
    (hm : m.WellFormed)
    (hr : ∀ p h, m.handler? p = some h → h.Respects S)
    (h : i.Mirrored S id i')
    (hrules : i'.rules = {})
    (bound : Nat)
    (hfree : ∀ violation,
      (m.runToCompletion bound i).2 ≠ .failed (.visitLimitExceeded violation)) :
    (m.runToCompletion bound i').2 = (m.runToCompletion bound i).2.pardoned ∧
    (m.runToCompletion bound i).1.Mirrored S id (m.runToCompletion bound i').1 := by
  induction bound generalizing i i' with
  | zero =>
      cases hcomplete : m.isComplete i with
      | true =>
          exact runToCompletion_unruled_of_complete h hrules hcomplete 0
      | false =>
          have hcomplete' := (isComplete_eq_of_mirrored h).trans hcomplete
          rw [m.runToCompletion_zero_of_open hcomplete,
            m.runToCompletion_zero_of_open hcomplete']
          exact ⟨rfl, h⟩
  | succ bound ih =>
      cases hcomplete : m.isComplete i with
      | true =>
          exact runToCompletion_unruled_of_complete h hrules hcomplete (bound + 1)
      | false =>
          have hcomplete' := (isComplete_eq_of_mirrored h).trans hcomplete
          have hrules' := (m.advance_spec none i').rules_eq.trans hrules
          rw [m.runToCompletion_succ_of_open hcomplete] at hfree ⊢
          rw [m.runToCompletion_succ_of_open hcomplete']
          have hstepFree : ¬ CapRefuses (m.advance none i).2 := by
            rintro ⟨violation, hrefused⟩
            exact hfree violation (by rw [← Prod.eta (m.advance none i), hrefused])
          obtain ⟨hanswer, hafter⟩ :=
            (mirrors_self hr).advance_unruled (answersAlike_self hr) h hrules hstepFree
          rcases hstep : m.advance none i with ⟨j, result⟩
          rcases hstep' : m.advance none i' with ⟨j', result'⟩
          rw [hstep, hstep'] at hanswer hafter
          rw [hstep'] at hrules'
          rw [hstep] at hfree
          cases result with
          | error e =>
              cases hanswer
              refine ⟨?_, hafter⟩
              have hne := (Advance.of_eq hstep).ne_visitCountMismatch hm
              cases e with
              | visitCountMismatch violations => exact absurd rfl (hne violations)
              | _ => rfl
          | ok result =>
              cases hanswer
              exact ih hafter hrules' hfree

end Unruled

/-- How an instance with visit rules compares with one that has none. -/
structure ObservedOnly (m : Machine ω D) (i i' : Instance ω D) : Prop where
  calls : ∀ calls, (∀ answer ∈ m.answers calls i, ¬ CapRefuses answer) →
    m.answers calls i' = m.answers calls i ∧
    (m.after calls i).SameRun (m.after calls i')
  refused : ∀ calls, (∀ answer ∈ m.answers calls i, ¬ CapRefuses answer) →
    ∀ forced, CapRefuses (m.advance forced (m.after calls i)).2 →
      (m.advance forced (m.after calls i)).1 = m.after calls i ∧
      (m.after calls i).SameRun (m.after calls i')
  completed : ∀ bound j, m.runToCompletion bound i = (j, .done) →
    ∃ j', m.runToCompletion bound i' = (j', .done) ∧
      j.SameRun j' ∧ j'.log.path = j.log.path
  mismatched : ∀ bound j violations,
    m.runToCompletion bound i = (j, .failed (.visitCountMismatch violations)) →
    ∃ j', m.runToCompletion bound i' = (j', .done) ∧
      j.SameRun j' ∧ j'.log.path = j.log.path

/-- Visit rules only observe the runs of a built machine, until a cap refuses a step.
The surroundings of the two instances may differ by anything that no handler sees. -/
theorem rules_only_observe
    {b : Blueprint ω D}
    {m : Machine ω D}
    (hbuild : b.build = .ok m)
    {S : ω → ω → Prop}
    (hrespect : ∀ r ∈ b.handlers, r.2.Respects S)
    {i i' : Instance ω D}
    (hrun : i.SameRun i')
    (hrules : i'.rules = {})
    (hrelated : S i.surroundings i'.surroundings) :
    m.ObservedOnly i i' := by
  have hm := Blueprint.wellFormed_of_build hbuild
  have hr := Blueprint.forall_handler_of_build hbuild hrespect
  have hcalls : ∀ calls, (∀ answer ∈ m.answers calls i, ¬ CapRefuses answer) →
      m.answers calls i' = m.answers calls i ∧
      (m.after calls i).SameRun (m.after calls i') := by
    intro calls hfree
    obtain ⟨hanswers, hafter⟩ := (mirrors_self hr).calls (answersAlike_self hr)
      (hrun.mirrored hrelated) hrules hfree
    exact ⟨by simpa using hanswers, hafter.sameRun⟩
  have hcompleted : ∀ bound j ending, m.runToCompletion bound i = (j, ending) →
      ending.pardoned = .done →
      ∃ j', m.runToCompletion bound i' = (j', .done) ∧
        j.SameRun j' ∧ j'.log.path = j.log.path := by
    intro bound j ending hending hdone
    have hfree : ∀ violation,
        (m.runToCompletion bound i).2 ≠ .failed (.visitLimitExceeded violation) := by
      intro violation hrefused
      rw [hending] at hrefused
      obtain rfl : ending = .failed (.visitLimitExceeded violation) := hrefused
      cases hdone
    obtain ⟨hpardoned, hafter⟩ :=
      runToCompletion_unruled hm hr (hrun.mirrored hrelated) hrules bound hfree
    rw [hending] at hpardoned hafter
    exact ⟨_, Prod.ext rfl (hpardoned.trans hdone), hafter.sameRun, hafter.sameRun.path_eq⟩
  exact {
    calls := hcalls
    refused := by
      rintro calls hfree forced ⟨violation, hrefused⟩
      have hspec := m.advance_spec forced (m.after calls i)
      rw [hrefused] at hspec
      exact ⟨(hspec.leftBy hm).untouched (by simp), (hcalls calls hfree).2⟩
    completed := fun bound j h => hcompleted bound j _ h rfl
    mismatched := fun bound j violations h => hcompleted bound j _ h rfl }

/-- A quota that the small machine misses, against the same run in other surroundings
without it. -/
theorem observedOnly_retry :
    ∃ i i' : Instance Nat Nat,
      Blueprint.retry.build = .ok Blueprint.retryMachine ∧
      i.rules.quotas.get? 0 = some 4 ∧
      (Blueprint.retryMachine.runToCompletion 10 i).2.error?.isSome = true ∧
      (Blueprint.retryMachine.runToCompletion 10 i).1.visits = [3, 3, 0] ∧
      i'.rules = {} ∧
      i'.surroundings = 5 ∧
      Blueprint.retryMachine.ObservedOnly i i' := by
  have hdet : ∀ r ∈ Blueprint.retry.handlers, r.2.Deterministic := by
    simp [Blueprint.retry, Handler.Deterministic]
  refine ⟨(Blueprint.retryMachine.perform (.requireVisits "Init" 4)
      (Blueprint.retryMachine.newInstance 0 0)).1,
    Blueprint.retryMachine.newInstance 5 0, Blueprint.build_retry, by decide +kernel,
    by decide +kernel, by decide +kernel, rfl, rfl, ?_⟩
  exact rules_only_observe Blueprint.build_retry (fun r hr => (hdet r hr).respects)
    ⟨by decide +kernel, by decide +kernel, by decide +kernel, by decide +kernel,
      by decide +kernel⟩ rfl trivial

end Machine
end Flowchart

import Flowchart.Proofs.Flow
import Flowchart.Proofs.Rules
import Mathlib.Algebra.Order.BigOperators.Group.Finset
import Mathlib.Tactic.Ring

/-!
# Visit caps and termination

A machine need not halt.  A run to completion ends all the same where the caps cut
every cycle of the table, whatever the handlers do.

Two things run out on the way.  A step from a capped state uses up one of the visits
that the caps still allow.  A step from any other state goes down in the graph that
is left when the capped states are no longer left, and since that graph has no cycle,
at most all its states come one after the other before a capped state is reached
again.  The potential of an instance weighs the two, and every transition lowers it.
-/

namespace Flowchart

variable {ω D : Type}

namespace VisitRules

/-- A state whose visits have a cap. -/
def Capped (rules : VisitRules) (s : StateId) : Prop :=
  (rules.caps.get? s).isSome = true

instance (rules : VisitRules) :
    DecidablePred rules.Capped :=
  fun s => inferInstanceAs (Decidable ((rules.caps.get? s).isSome = true))

/-- How many visits of a state its cap still allows. -/
def allowance (rules : VisitRules) (visits : List Nat) (s : StateId) : Nat :=
  match rules.caps.get? s with
  | some cap => cap - visits.getD s 0
  | none => 0

end VisitRules

namespace Machine

/-- A state follows another if a transition of the table leads there. -/
def Follows (m : Machine ω D) (s t : StateId) : Prop :=
  ∃ branch, m.Edge s branch t

/-- Every cycle of the table passes through a capped state.  A cycle is given by its
states, in order, from one of them back to it. -/
def CutBy (m : Machine ω D) (rules : VisitRules) : Prop :=
  ∀ s rest, List.IsChain m.Follows (s :: rest ++ [s]) → ∃ t ∈ s :: rest, rules.Capped t

/-- How many visits all caps together still allow. -/
def budget (m : Machine ω D) (i : Instance ω D) : Nat :=
  ∑ s ∈ Finset.range m.states.length, i.rules.allowance i.visits s

/-- The states that can be left any number of times. -/
def freeStates (m : Machine ω D) (rules : VisitRules) : Finset StateId :=
  {s ∈ Finset.range m.states.length | ¬ rules.Capped s ∧ m.isTerminal s = false}

/-! ### Below the caps -/

/-- A transition from a state without a cap. -/
def FreeStep (m : Machine ω D) (rules : VisitRules) (s t : StateId) : Prop :=
  ¬ rules.Capped s ∧ m.Follows s t

open Classical in
/-- The number of free states that can be reached from a state without leaving a
capped one. -/
noncomputable def depth (m : Machine ω D) (rules : VisitRules) (s : StateId) : Nat :=
  {t ∈ m.freeStates rules | Relation.ReflTransGen (m.FreeStep rules) s t}.card

theorem depth_le
    (m : Machine ω D)
    (rules : VisitRules)
    (s : StateId) :
    m.depth rules s ≤ (m.freeStates rules).card := by
  classical
  exact Finset.card_filter_le _ _

section Graph

variable {m : Machine ω D} {rules : VisitRules}

theorem FreeStep.mem_freeStates
    {s t : StateId}
    (h : m.FreeStep rules s t) :
    s ∈ m.freeStates rules := by
  obtain ⟨hfree, branch, hedge⟩ := h
  have hopen : m.isTerminal s = false := by
    cases hedge with
    | action hrow | decision outcome hrow =>
        simp [isTerminal, kind?, hrow, Row.kind, Kind.isTerminal]
  simp [freeStates, hedge.source_lt, hfree, hopen]

/-- A way through states without a cap, as a list of states. -/
theorem transGen_freeStep_iff
    {s t : StateId} :
    Relation.TransGen (m.FreeStep rules) s t ↔
      ∃ rest, List.IsChain m.Follows (s :: rest ++ [t]) ∧
        ∀ u ∈ s :: rest, ¬ rules.Capped u := by
  constructor
  · intro h
    induction h using Relation.TransGen.head_induction_on with
    | @single s hstep =>
        exact ⟨[], by simpa using hstep.2, by simpa using hstep.1⟩
    | @head s u hstep _ ih =>
        obtain ⟨rest, hchain, hfree⟩ := ih
        exact ⟨u :: rest, .cons_cons hstep.2 hchain,
          List.forall_mem_cons.2 ⟨hstep.1, hfree⟩⟩
  · rintro ⟨rest, hchain, hfree⟩
    induction rest generalizing s with
    | nil =>
        exact .single ⟨hfree s (by simp), by simpa using hchain⟩
    | cons u rest ih =>
        obtain ⟨hfollows, hchain⟩ := List.isChain_cons_cons.1 hchain
        obtain ⟨hs, hfree⟩ := List.forall_mem_cons.1 hfree
        exact .head ⟨hs, hfollows⟩ (ih hchain hfree)

/-- All cycles are cut exactly if no state without a cap is reached from itself
through such states. -/
theorem cutBy_iff_acyclic :
    m.CutBy rules ↔ ∀ s, ¬ Relation.TransGen (m.FreeStep rules) s s := by
  simp only [CutBy, transGen_freeStep_iff, not_exists, not_and, not_forall, not_not,
    exists_prop]

/-- All cycles are cut if every transition from a state without a cap goes down. -/
theorem CutBy.of_rank
    (rank : StateId → Nat)
    (h : ∀ s t, m.FreeStep rules s t → rank t < rank s) :
    m.CutBy rules := by
  refine cutBy_iff_acyclic.2 fun s hcycle => ?_
  have hdown : ∀ t, Relation.TransGen (m.FreeStep rules) s t → rank t < rank s := by
    intro t hway
    induction hway with
    | single hstep => exact h _ _ hstep
    | tail _ hstep ih => exact (h _ _ hstep).trans ih
  exact Nat.lt_irrefl _ (hdown s hcycle)

/-- A transition from a state without a cap goes down. -/
theorem CutBy.depth_lt
    (hcut : m.CutBy rules)
    {s t : StateId}
    (h : m.FreeStep rules s t) :
    m.depth rules t < m.depth rules s := by
  classical
  apply Finset.card_lt_card
  refine (Finset.ssubset_iff_of_subset ?_).2 ⟨s, ?_, ?_⟩
  · intro u hu
    obtain ⟨hmem, hreach⟩ := Finset.mem_filter.1 hu
    exact Finset.mem_filter.2 ⟨hmem, .head h hreach⟩
  · exact Finset.mem_filter.2 ⟨h.mem_freeStates, .refl⟩
  · -- the state that is left is below no state that follows it
    intro hs
    exact cutBy_iff_acyclic.1 hcut s (.head' h (Finset.mem_filter.1 hs).2)

end Graph

/-! ### The budget of the caps -/

section Budget

variable (m : Machine ω D) {i : Instance ω D}

theorem allowance_commit_le
    (target : StateId)
    (branch : Option Bool)
    (s : StateId) :
    (m.commit target branch i).rules.allowance (m.commit target branch i).visits s ≤
      i.rules.allowance i.visits s := by
  simp only [commit_rules, commit_visits, VisitRules.allowance, getD_modify_succ]
  split <;> omega

/-- No transition raises the budget. -/
theorem budget_commit_le
    (target : StateId)
    (branch : Option Bool) :
    m.budget (m.commit target branch i) ≤ m.budget i :=
  Finset.sum_le_sum fun s _ => m.allowance_commit_le target branch s

/-- A transition from a capped state lowers the budget. -/
theorem budget_commit_lt
    (hvisits : i.visits.length = m.states.length)
    {target : StateId}
    {branch : Option Bool}
    (hedge : m.Edge i.current branch target)
    (hcapped : i.rules.Capped i.current)
    (hcap : m.checkCap i = .ok ()) :
    m.budget (m.commit target branch i) < m.budget i := by
  have hlt := hedge.source_lt
  refine Finset.sum_lt_sum (fun s _ => m.allowance_commit_le target branch s)
    ⟨i.current, Finset.mem_range.2 hlt, ?_⟩
  obtain ⟨cap, hget⟩ := Option.isSome_iff_exists.1 hcapped
  have hallowed := m.visits_lt_of_checkCap hget hcap
  rw [← hvisits] at hlt
  simp only [commit_rules, commit_visits, VisitRules.allowance, hget, getD_modify_succ,
    hlt, and_self, if_true]
  omega

end Budget

/-! ### The potential -/

/-- A bound on the transitions that an instance can still take. -/
noncomputable def potential (m : Machine ω D) (i : Instance ω D) : Nat :=
  m.budget i * ((m.freeStates i.rules).card + 1) + m.depth i.rules i.current

section Potential

variable {m : Machine ω D} {i : Instance ω D}

/-- Every transition lowers the potential. -/
theorem CutBy.potential_commit_lt
    (hcut : m.CutBy i.rules)
    (hvisits : i.visits.length = m.states.length)
    {target : StateId}
    {branch : Option Bool}
    (hedge : m.Edge i.current branch target)
    (hcap : m.checkCap i = .ok ()) :
    m.potential (m.commit target branch i) < m.potential i := by
  unfold potential
  rw [commit_rules, commit_current]
  by_cases hcapped : i.rules.Capped i.current
  · -- one unit of the budget pays for the whole way down to the next capped state
    have hspent := m.budget_commit_lt hvisits hedge hcapped hcap
    have hdepth := m.depth_le i.rules target
    have hpaid := Nat.mul_le_mul_right ((m.freeStates i.rules).card + 1) hspent
    rw [Nat.succ_mul] at hpaid
    omega
  · have hkept := Nat.mul_le_mul_right ((m.freeStates i.rules).card + 1)
      (m.budget_commit_le (i := i) target branch)
    have hdown := hcut.depth_lt ⟨hcapped, branch, hedge⟩
    omega

/-- A course takes no more transitions than the potential falls. -/
theorem CutBy.length_add_potential_le
    {j : Instance ω D}
    {taken : List Transition}
    {e : Option RunError}
    (hcourse : m.Course i taken e j)
    (hcut : m.CutBy i.rules)
    (hvisits : i.visits.length = m.states.length) :
    taken.length + m.potential j ≤ m.potential i := by
  induction hcourse with
  | stay i | refused h =>
      simp
  | failed h =>
      obtain ⟨w, d, rfl⟩ := (Advance.of_eq h).effect_of_error
      simp [potential, budget]
  | @step i j k forced result rest e h _ ih =>
      rcases (Advance.of_eq h).halts_or_commits with
        ⟨-, -, rfl, rfl⟩ | ⟨branch, target, w, d, -, hcap, hedge, rfl, rfl⟩
      · exact ih hcut hvisits
      · have hrest := ih hcut (by simpa using hvisits)
        have hstep : m.potential (m.commit target branch (i.withEffect w d)) <
            m.potential i :=
          CutBy.potential_commit_lt (i := i.withEffect w d) hcut hvisits hedge hcap
        simp only [StepResult.transitions, List.length_append, List.length_singleton]
        omega

end Potential

/-- How many transitions a run can take where the caps cut every cycle: the visits
that the caps allow and, before each of these and after the last, a way through the
states without a cap. -/
def stepLimit (m : Machine ω D) (i : Instance ω D) : Nat :=
  m.budget i + (m.budget i + 1) * (m.freeStates i.rules).card

theorem potential_le_stepLimit
    (m : Machine ω D)
    (i : Instance ω D) :
    m.potential i ≤ m.stepLimit i := by
  have hdepth := m.depth_le i.rules i.current
  have hlimit : m.stepLimit i =
      m.budget i * ((m.freeStates i.rules).card + 1) + (m.freeStates i.rules).card := by
    unfold stepLimit
    ring
  rw [hlimit, potential]
  omega

/-! ### Runs with a bound -/

section Runs

variable {m : Machine ω D}

/-- A run that its bound stops has taken as many transitions. -/
theorem length_runTransitions_of_unfinished
    {verdict : Instance ω D → Option (Except RunError Unit)}
    {stops : Instance ω D → Bool}
    (hstops : ∀ i, stops i = (verdict i).isSome)
    (hcomplete : ∀ i, m.isComplete i = true → stops i = true)
    {bound : Nat}
    {i : Instance ω D}
    (h : (m.drive verdict bound i).2 = .unfinished) :
    (m.runTransitions stops bound i).length = bound := by
  induction bound generalizing i with
  | zero =>
      rfl
  | succ bound ih =>
      unfold drive at h
      unfold runTransitions
      cases hverdict : verdict i with
      | some result =>
          cases result <;> simp [hverdict, Ending.ofExcept] at h
      | none =>
          have hgoes : stops i = false := by
            simp [hstops, hverdict]
          simp only [hverdict, hgoes, Machine.step, stepTransitions, Bool.false_eq_true,
            if_false] at h ⊢
          rcases hstep : m.advance none i with ⟨j, result | result⟩
          · simp [hstep] at h
          · simp only [hstep] at h ⊢
            rcases (Advance.of_eq hstep).halts_or_commits with
              ⟨hhalted, -⟩ | ⟨_, _, _, _, -, -, -, -, rfl⟩
            · simp [hcomplete i hhalted] at hgoes
            · simp [StepResult.transitions, ih h]

/-- A run that ends within its bound does not depend on the bound. -/
theorem drive_eq_of_le
    {verdict : Instance ω D → Option (Except RunError Unit)}
    {bound bound' : Nat}
    {i : Instance ω D}
    (h : (m.drive verdict bound i).2 ≠ .unfinished)
    (hle : bound ≤ bound') :
    m.drive verdict bound' i = m.drive verdict bound i := by
  induction bound generalizing i bound' with
  | zero =>
      unfold drive at h ⊢
      cases hverdict : verdict i with
      | some result => rfl
      | none => simp [hverdict] at h
  | succ bound ih =>
      obtain ⟨bound', rfl⟩ :=
        Nat.exists_eq_add_of_le' (Nat.lt_of_lt_of_le bound.succ_pos hle)
      unfold drive at h ⊢
      cases hverdict : verdict i with
      | some result => rfl
      | none =>
          simp only [hverdict] at h ⊢
          rcases hstep : m.step i with ⟨j, result | result⟩
          · rfl
          · simp only [hstep] at h ⊢
            exact ih h (Nat.le_of_succ_le_succ hle)

theorem exists_ofExcept_of_ne_unfinished
    {ending : Ending}
    (h : ending ≠ .unfinished) :
    ∃ result, ending = .ofExcept result := by
  cases ending with
  | done => exact ⟨.ok (), rfl⟩
  | failed e => exact ⟨.error e, rfl⟩
  | unfinished => exact absurd rfl h

end Runs

section Completion

variable {m : Machine ω D} {i : Instance ω D}

theorem CutBy.length_runTransitions_le
    (hcut : m.CutBy i.rules)
    (hvisits : i.visits.length = m.states.length)
    (bound : Nat) :
    (m.runTransitions m.isComplete bound i).length ≤ m.stepLimit i := by
  have hfall := CutBy.length_add_potential_le
      (m.course_runToCompletion bound i) hcut hvisits
  exact (Nat.le_of_add_right_le hfall).trans (m.potential_le_stepLimit i)

/-- A bound above the limit does not stop a run to completion. -/
theorem CutBy.runToCompletion_ne_unfinished
    (hcut : m.CutBy i.rules)
    (hvisits : i.visits.length = m.states.length)
    {bound : Nat}
    (hbound : m.stepLimit i < bound) :
    (m.runToCompletion bound i).2 ≠ .unfinished := by
  intro hunfinished
  have hfull : (m.runTransitions m.isComplete bound i).length = bound := by
    refine length_runTransitions_of_unfinished ?_ (fun i hi => hi) hunfinished
    intro i
    cases m.isComplete i <;> simp
  have hfew := hcut.length_runTransitions_le hvisits bound
  omega

/-- Where the caps cut every cycle, a run to completion ends, with or without an
error, whatever the handlers do.  Any bound above the limit gives the same end. -/
theorem runToCompletion_ends
    (hi : m.Reachable i)
    (hcut : m.CutBy i.rules) :
    ∃ j result,
      (∀ bound, m.stepLimit i < bound →
        m.runToCompletion bound i = (j, .ofExcept result) ∧
        (m.transitions (.runToCompletion bound) i).length ≤ m.stepLimit i) ∧
      j.steps ≤ i.steps + m.stepLimit i := by
  obtain ⟨history, hhistory⟩ := hi.exists_history
  have hbooks := hhistory.books
  have hfew := hcut.length_runTransitions_le hbooks.length_visits
  have hended :=
    hcut.runToCompletion_ne_unfinished hbooks.length_visits (m.stepLimit i).lt_succ_self
  have hsame : ∀ bound, m.stepLimit i < bound →
      m.runToCompletion bound i = m.runToCompletion (m.stepLimit i + 1) i :=
    fun bound hbound => drive_eq_of_le hended hbound
  obtain ⟨result, hresult⟩ := exists_ofExcept_of_ne_unfinished hended
  refine ⟨(m.runToCompletion (m.stepLimit i + 1) i).1, result, ?_, ?_⟩
  · intro bound hbound
    refine ⟨?_, hfew bound⟩
    rw [hsame bound hbound, ← hresult]
  · have hcourse := m.course_runToCompletion (m.stepLimit i + 1) i
    have hafter := (hbooks.course hcourse).steps_eq
    rw [hafter, List.length_append, ← hbooks.steps_eq]
    exact Nat.add_le_add_left (hfew _) _

end Completion

/-- With a cap of two on its decision the small machine takes as many transitions as
the limit allows, and the cap ends the run. -/
theorem runToCompletion_ends_retry :
    ∃ i : Instance Nat Nat,
      Blueprint.retry.build = .ok Blueprint.retryMachine ∧
      Blueprint.retryMachine.Reachable i ∧
      Blueprint.retryMachine.CutBy i.rules ∧
      Blueprint.retryMachine.stepLimit i = 5 ∧
      (Blueprint.retryMachine.runToCompletion 6 i).1.steps = 5 ∧
      ∃ j result,
        (∀ bound, Blueprint.retryMachine.stepLimit i < bound →
          Blueprint.retryMachine.runToCompletion bound i = (j, .ofExcept result) ∧
          (Blueprint.retryMachine.transitions (.runToCompletion bound) i).length ≤
            Blueprint.retryMachine.stepLimit i) ∧
        j.steps ≤ i.steps + Blueprint.retryMachine.stepLimit i := by
  have hi : Blueprint.retryMachine.Reachable _ :=
    .perform (.capVisits "Check" 2) (.start 0 0)
  have hcut : Blueprint.retryMachine.CutBy
      (Blueprint.retryMachine.perform (.capVisits "Check" 2)
        (Blueprint.retryMachine.newInstance 0 0)).1.rules := by
    refine CutBy.of_rank (fun s => if s = 0 then 1 else 0) ?_
    rintro (s : Nat) t ⟨hfree, branch, hedge⟩
    have hlt : s < 3 := hedge.source_lt
    have hopen : s ≠ 1 := by
      rintro rfl
      exact hfree (by decide)
    obtain rfl | rfl : s = 0 ∨ s = 2 := by omega
    · cases hedge with
      | action hrow => cases hrow; decide
      | decision outcome hrow => cases hrow
    · cases hedge with
      | action hrow | decision outcome hrow => cases hrow
  exact ⟨_, Blueprint.build_retry, hi, hcut, by decide +kernel, by decide +kernel,
    runToCompletion_ends hi hcut⟩

end Machine
end Flowchart

import Flowchart.Proofs.Failure
import Flowchart.Proofs.Rules

/-!
# Caps while they are in force

A cap is compared with the visits that a step would come to, before the step does
anything.  So from the moment a cap is set, and until the rules of its state are edited
again, no operation takes the visits of the state above the cap.  If they were above it
already, they stay what they were until the next run begins.
-/

namespace Flowchart
namespace Machine

variable {ω D : Type} {m : Machine ω D}

/-- What a cap does to the steps from its state: it refuses those that would exceed it,
without any effect, and no other. -/
structure Governs (m : Machine ω D) (s : StateId) (cap : Nat) (i : Instance ω D) :
    Prop where
  refused : i.current = s → cap ≤ i.visits.getD s 0 → ∀ forced,
    m.advance forced i =
      (i, .error (.visitLimitExceeded
        (.tooManyVisits (m.label s) cap (i.visits.getD s 0 + 1))))
  allowed : i.current = s → i.visits.getD s 0 < cap → ∀ forced violation,
    (m.advance forced i).2 ≠ .error (.visitLimitExceeded violation)

/-- The second instance still has the cap, and no more visits than the cap allows or
than the first one had. -/
def StaysWithin (s : StateId) (cap : Nat) (i j : Instance ω D) : Prop :=
  i.rules.caps.get? s = some cap →
    j.rules.caps.get? s = some cap ∧ j.visits.getD s 0 ≤ max cap (i.visits.getD s 0)

/-- Only the check of a cap reports a visit rule. -/
theorem Advance.checkCap_of_visitLimitExceeded
    {forced : Option Bool}
    {i j : Instance ω D}
    {violation : Violation}
    (h : m.Advance forced i j (.error (.visitLimitExceeded violation))) :
    m.checkCap i = .error (.visitLimitExceeded violation) := by
  generalize hanswer : Except.error (RunError.visitLimitExceeded violation) = answer at h
  cases h with
  | stopped hrow =>
      unfold terminalStep at hanswer
      split at hanswer <;> cases hanswer
  | capped hrow hkind hcap =>
      cases hanswer
      exact hcap
  | actionFailed hrow hcap hrun =>
      cases hanswer
      obtain ⟨_, _, he⟩ := runAction_error hrun
      cases he
  | decisionFailed hrow hcap hask =>
      cases hanswer
      obtain ⟨_, he⟩ := branchOutcome_error hask
      cases he
  | acted | decided =>
      cases hanswer

theorem governs_of_cap
    {s : StateId}
    (hopen : m.isTerminal s = false)
    {cap : Nat}
    {i : Instance ω D}
    (hget : i.rules.caps.get? s = some cap) :
    m.Governs s cap i where
  refused := by
    rintro rfl hfull forced
    exact m.advance_of_cap_le hopen hget hfull forced
  allowed := by
    rintro rfl hlt forced violation hrefused
    have hcap := Advance.checkCap_of_visitLimitExceeded
        (Advance.of_eq (Prod.ext rfl hrefused))
    rw [m.checkCap_of_cap hget, if_neg (by omega)] at hcap
    cases hcap

namespace StaysWithin

variable {s : StateId} {cap : Nat} {i j k : Instance ω D}

theorem trans
    (hij : StaysWithin s cap i j)
    (hjk : StaysWithin s cap j k) :
    StaysWithin s cap i k := by
  intro hi
  obtain ⟨hj, hvisits⟩ := hij hi
  obtain ⟨hk, hmore⟩ := hjk hj
  exact ⟨hk, by omega⟩

/-- A transition that the cap allows comes to the cap at most. -/
theorem commit
    (hcap : m.checkCap i = .ok ())
    (target : StateId)
    (branch : Option Bool) :
    StaysWithin s cap i (m.commit target branch i) := by
  intro hget
  refine ⟨hget, ?_⟩
  rw [commit_visits, getD_modify_succ]
  split_ifs with hs
  · obtain ⟨rfl, -⟩ := hs
    have hlt := m.visits_lt_of_checkCap hget hcap
    omega
  · omega

end StaysWithin

theorem stepClosed_staysWithin
    (m : Machine ω D)
    (s : StateId)
    (cap : Nat) :
    m.StepClosed (fun _ _ => True) (StaysWithin s cap) where
  refl i hget := ⟨hget, by omega⟩
  trans _ _ _ := .trans
  silent _ := trivial
  advance forced i _ := by
    have hspec := m.advance_spec forced i
    cases hresult : (m.advance forced i).2 with
    | error e =>
        rw [hresult] at hspec
        obtain ⟨w, d, heffect⟩ := hspec.effect_of_error
        rw [heffect]
        exact fun hget => ⟨hget, Nat.le_max_right _ _⟩
    | ok result =>
        rw [hresult] at hspec
        rcases hspec.halts_or_commits with
          ⟨-, -, hsame, -⟩ | ⟨branch, target, w, d, -, hcap, -, hcommit, -⟩
        · rw [hsame]
          exact fun hget => ⟨hget, by omega⟩
        · rw [hcommit]
          exact StaysWithin.commit (i := i.withEffect w d) hcap target branch

section Operations

variable {s : StateId} {cap : Nat}

/-- An operation that spares the rules of a state keeps within its cap. -/
theorem staysWithin_perform
    (m : Machine ω D)
    {op : Operation ω D}
    (hspares : ∀ e ∈ m.ruleEdits op, e.Spares s)
    (i : Instance ω D) :
    StaysWithin s cap i (m.perform op i).1 := by
  by_cases hop : op.Travels
  · exact (m.stepClosed_staysWithin s cap).of_course (m.course_of_travels hop i) trivial
  · intro hget
    refine ⟨by rw [m.perform_rules, VisitRules.caps_foldl_edit hspares, hget], ?_⟩
    rcases m.perform_of_not_travels hop i with
      ⟨-, hrestart⟩ | ⟨-, w, d, rules, -, hedited⟩
    · rw [hrestart]
      have hnone : (m.restart i).visits.getD s 0 = 0 := by
        by_cases hs : s < i.visits.length <;> simp [restart, hs]
      omega
    · rw [hedited]
      exact Nat.le_max_right _ _

theorem staysWithin_performAll
    (m : Machine ω D)
    {ops : List (Operation ω D)}
    (hspares : ∀ op ∈ ops, ∀ e ∈ m.ruleEdits op, e.Spares s)
    (i : Instance ω D) :
    StaysWithin s cap i (m.performAll ops i) := by
  induction ops generalizing i with
  | nil =>
      exact (m.stepClosed_staysWithin s cap).refl i
  | cons op rest ih =>
      obtain ⟨hop, hrest⟩ := List.forall_mem_cons.1 hspares
      exact (m.staysWithin_perform hop i).trans (ih hrest _)

/-- Setting a cap, by itself or with a quota, puts it in force and counts no visit. -/
theorem perform_of_ruleEdits
    {op : Operation ω D}
    (hset : m.ruleEdits op = [.cap s cap] ∨ m.ruleEdits op = [.quota s cap])
    (i : Instance ω D) :
    (m.perform op i).1.rules.caps.get? s = some cap ∧
    (m.perform op i).1.visits = i.visits := by
  constructor
  · rw [m.perform_rules]
    rcases hset with hset | hset <;> rw [hset] <;>
      simp [VisitRules.edit, VisitRules.setCap, VisitRules.setQuota, Limits.get?_set]
  · cases op with
    | capVisits state visits | requireVisits state visits =>
        simp only [perform, capVisits, requireVisits]
        cases m.resolve state <;> rfl
    | _ =>
        simp [ruleEdits] at hset

/-- From the moment a cap of a state is set, and as long as the rules of that state are
spared, its visits never rise above the cap or above what they were, and the cap
refuses exactly the steps that would exceed it. -/
theorem governs_since_cap_set
    (m : Machine ω D)
    (hopen : m.isTerminal s = false)
    {op : Operation ω D}
    (hset : m.ruleEdits op = [.cap s cap] ∨ m.ruleEdits op = [.quota s cap])
    {ops : List (Operation ω D)}
    (hspares : ∀ op ∈ ops, ∀ e ∈ m.ruleEdits op, e.Spares s)
    (i : Instance ω D) :
    (m.performAll ops (m.perform op i).1).visits.getD s 0 ≤
      max cap (i.visits.getD s 0) ∧
    m.Governs s cap (m.performAll ops (m.perform op i).1) := by
  obtain ⟨hget, hvisits⟩ := perform_of_ruleEdits hset i
  obtain ⟨hget, hle⟩ := m.staysWithin_performAll hspares _ hget
  rw [hvisits] at hle
  exact ⟨hle, governs_of_cap hopen hget⟩

/-- The cap of the small machine over two runs, the first of which it stops. -/
theorem governs_retry :
    ∃ i j : Instance Nat Nat,
      Blueprint.retryMachine.isTerminal 0 = false ∧
      i = Blueprint.retryMachine.newInstance 0 0 ∧
      j = Blueprint.retryMachine.performAll
        [.runToCompletion 10, .restart, .setData 0 0, .capVisits "Check" 7,
          .runToStepCount 4]
        (Blueprint.retryMachine.perform (.capVisits "Init" 2) i).1 ∧
      j.current = 0 ∧
      j.visits.getD 0 0 = 2 ∧
      j.visits.getD 0 0 ≤ max 2 (i.visits.getD 0 0) ∧
      Blueprint.retryMachine.Governs 0 2 j := by
  have hedits : [.runToCompletion 10, .restart, .setData 0 0, .capVisits "Check" 7,
      .runToStepCount 4].flatMap Blueprint.retryMachine.ruleEdits = [.cap 1 7] := by
    decide +kernel
  refine ⟨_, _, by decide +kernel, rfl, rfl, by decide +kernel, by decide +kernel, ?_⟩
  refine governs_since_cap_set Blueprint.retryMachine (by decide +kernel)
    (.inl (by decide +kernel)) ?_ _
  intro op hop e he
  have hmem := List.mem_flatMap.2 ⟨op, hop, he⟩
  rw [hedits, List.mem_singleton] at hmem
  rw [hmem]
  exact Nat.one_ne_zero

end Operations

end Machine
end Flowchart

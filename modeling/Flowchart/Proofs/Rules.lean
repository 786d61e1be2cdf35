import Flowchart.Proofs.Build
import Flowchart.Proofs.Entries
import Flowchart.Proofs.Operation
import Mathlib.Data.List.Induction

/-!
# Visit rules and their history

The visit rules of an instance are what a sequence of edits makes of none: caps and
quotas that are set, and the clearing of all rules.  Other operations leave the rules
alone.

A quota brings a cap with it, and the last edit of a state decides about its cap.  So a
quota that is in force is a cap as well, until a greater cap is set for its state.
-/

namespace Flowchart

namespace Limits

/-- Setting a number replaces that of the state, and of no other. -/
theorem get?_set
    (l : Limits)
    (id : StateId)
    (n : Nat)
    (s : StateId) :
    (l.set id n).get? s = if s = id then some n else l.get? s :=
  Entries.lookup_insert id s n l.entries

end Limits

namespace VisitRules

/-- One edit of visit rules. -/
inductive Edit where
  | cap (s : StateId) (n : Nat)
  | quota (s : StateId) (n : Nat)
  | clear
  deriving DecidableEq, Repr

def edit (rules : VisitRules) : Edit → VisitRules
  | .cap s n => rules.setCap s n
  | .quota s n => rules.setQuota s n
  | .clear => {}

/-- The rules after a sequence of edits. -/
def ofEdits (edits : List Edit) : VisitRules :=
  edits.foldl edit {}

/-- An edit that leaves the rules of a state as they are. -/
def Edit.Spares (s : StateId) : Edit → Prop
  | .cap t _ | .quota t _ => t ≠ s
  | .clear => False

/-- The last edit of the rules of a state is a cap above the given quota. -/
def Raised (s : StateId) (quota : Nat) (edits : List Edit) : Prop :=
  ∃ before n after, edits = before ++ .cap s n :: after ∧ quota < n ∧
    ∀ e ∈ after, e.Spares s

section Edits

variable {s : StateId} {quota : Nat}

/-- An edit that spares a state changes neither its cap nor its quota. -/
theorem Edit.Spares.get?_edit
    {e : Edit}
    (h : e.Spares s)
    (rules : VisitRules) :
    (rules.edit e).caps.get? s = rules.caps.get? s ∧
    (rules.edit e).quotas.get? s = rules.quotas.get? s := by
  cases e with
  | cap t n | quota t n =>
      simp [edit, setCap, setQuota, Limits.get?_set, Ne.symm h]
  | clear =>
      exact h.elim

/-- A cap stays in force while its state is spared. -/
theorem caps_foldl_edit
    {edits : List Edit}
    (h : ∀ e ∈ edits, e.Spares s)
    (rules : VisitRules) :
    (edits.foldl edit rules).caps.get? s = rules.caps.get? s := by
  induction edits generalizing rules with
  | nil =>
      rfl
  | cons e rest ih =>
      obtain ⟨he, hrest⟩ := List.forall_mem_cons.1 h
      rw [List.foldl_cons, ih hrest, (he.get?_edit rules).1]

/-- Whether a quota is raised is decided by the last edit of its state. -/
theorem raised_concat
    (edits : List Edit)
    (e : Edit) :
    Raised s quota (edits ++ [e]) ↔
      (e.Spares s ∧ Raised s quota edits) ∨ ∃ n, e = .cap s n ∧ quota < n := by
  constructor
  · rintro ⟨before, n, after, hedits, hlt, hafter⟩
    rcases List.eq_nil_or_concat after with rfl | ⟨init, last, rfl⟩
    · obtain ⟨-, he⟩ := List.append_inj' hedits rfl
      exact .inr ⟨n, List.head_eq_of_cons_eq he, hlt⟩
    · rw [List.concat_eq_append, ← List.cons_append, ← List.append_assoc] at hedits
      obtain ⟨rfl, he⟩ := List.append_inj' hedits rfl
      rw [List.concat_eq_append, ← List.head_eq_of_cons_eq he] at hafter
      exact .inl ⟨hafter e (by simp),
        before, n, init, rfl, hlt, fun e he => hafter e (by simp [he])⟩
  · rintro (⟨he, before, n, after, rfl, hlt, hafter⟩ | ⟨n, rfl, hlt⟩)
    · refine ⟨before, n, after ++ [e], by simp, hlt, ?_⟩
      intro e' he'
      rcases List.mem_append.1 he' with he' | he'
      · exact hafter e' he'
      · rw [List.mem_singleton.1 he']
        exact he
    · exact ⟨edits, n, [], rfl, hlt, by simp⟩

/-- A quota that is in force comes with a cap, which is greater exactly if it was
raised. -/
theorem exists_cap_of_quota
    {edits : List Edit}
    (h : (ofEdits edits).quotas.get? s = some quota) :
    ∃ cap, (ofEdits edits).caps.get? s = some cap ∧
      (quota < cap ↔ Raised s quota edits) := by
  induction edits using List.reverseRecOn with
  | nil =>
      cases h
  | append_singleton edits e ih =>
      have hlast : ofEdits (edits ++ [e]) = (ofEdits edits).edit e := by
        simp [ofEdits]
      rw [hlast] at h ⊢
      by_cases he : e.Spares s
      · obtain ⟨hcaps, hquotas⟩ := he.get?_edit (ofEdits edits)
        rw [hquotas] at h
        obtain ⟨cap, hcap, hraised⟩ := ih h
        refine ⟨cap, by rw [hcaps, hcap], ?_⟩
        rw [hraised, raised_concat]
        refine ⟨fun h => .inl ⟨he, h⟩, ?_⟩
        rintro (⟨-, h⟩ | ⟨n, rfl, -⟩)
        · exact h
        · exact absurd rfl he
      · cases e with
        | cap t n =>
            obtain rfl : t = s := not_not.1 he
            exact ⟨n, by simp [edit, setCap, Limits.get?_set], by simp [raised_concat, he]⟩
        | quota t n =>
            obtain rfl : t = s := not_not.1 he
            obtain rfl : n = quota := by
              simpa [edit, setQuota, Limits.get?_set] using h
            exact ⟨n, by simp [edit, setQuota, Limits.get?_set],
              by simp [raised_concat, he]⟩
        | clear =>
            cases h

theorem checkEntry_of_cap
    {rules : VisitRules}
    {cap : Nat}
    (h : rules.caps.get? s = some cap)
    (nameOf : StateId → String)
    (visits : Nat) :
    rules.checkEntry nameOf s visits =
      if cap < visits then .error (.tooManyVisits (nameOf s) cap visits) else .ok () := by
  simp [checkEntry, h]

/-- A quota that is in force caps the visits exactly if it was not raised. -/
theorem checkEntry_fails_iff
    {edits : List Edit}
    (h : (ofEdits edits).quotas.get? s = some quota) :
    (∀ nameOf visits, quota < visits →
      ∃ violation, (ofEdits edits).checkEntry nameOf s visits = .error violation) ↔
    ¬ Raised s quota edits := by
  obtain ⟨cap, hcap, hraised⟩ := exists_cap_of_quota h
  simp only [← hraised, checkEntry_of_cap hcap]
  constructor
  · intro hfails hlt
    obtain ⟨violation, hviolation⟩ := hfails (fun _ => "") (quota + 1) (Nat.lt_succ_self _)
    rw [if_neg (by omega)] at hviolation
    cases hviolation
  · intro hle nameOf visits hvisits
    exact ⟨_, if_pos (by omega)⟩

end Edits

/-- After a quota was set to two and then the cap to five, a third visit passes. -/
theorem quota_passed_of_raised :
    (ofEdits [.quota 0 2, .cap 0 5]).quotas.get? 0 = some 2 ∧
    2 < 3 ∧
    (ofEdits [.quota 0 2, .cap 0 5]).checkEntry (fun _ => "Check") 0 3 = .ok () :=
  ⟨rfl, by decide, rfl⟩

end VisitRules

namespace Machine

variable {ω D : Type}

/-! ### Operations as edits -/

/-- The edits of visit rules that an operation makes. -/
def ruleEdits (m : Machine ω D) : Operation ω D → List VisitRules.Edit
  | .capVisits state visits => (m.idOf? state).toList.map (.cap · visits)
  | .requireVisits state visits => (m.idOf? state).toList.map (.quota · visits)
  | .clearVisitRules => [.clear]
  | _ => []

/-- Performs operations one after the other, whatever errors they report. -/
def performAll (m : Machine ω D) (ops : List (Operation ω D)) (i : Instance ω D) :
    Instance ω D :=
  ops.foldl (fun i op => (m.perform op i).1) i

theorem performAll_concat
    (m : Machine ω D)
    (ops : List (Operation ω D))
    (op : Operation ω D)
    (i : Instance ω D) :
    m.performAll (ops ++ [op]) i = (m.perform op (m.performAll ops i)).1 :=
  List.foldl_concat _ _ _ _

/-- An operation changes the visit rules by its edits. -/
theorem perform_rules
    (m : Machine ω D)
    (op : Operation ω D)
    (i : Instance ω D) :
    (m.perform op i).1.rules = (m.ruleEdits op).foldl VisitRules.edit i.rules := by
  by_cases hop : op.Travels
  · have hnone : m.ruleEdits op = [] := by
      cases op <;> first | rfl | exact hop.elim
    rw [hnone]
    exact m.stepClosed_rules.of_course (m.course_of_travels hop i) trivial
  · cases op with
    | capVisits state visits | requireVisits state visits =>
        simp only [perform, capVisits, requireVisits, resolve, ruleEdits]
        cases m.idOf? state <;> rfl
    | clearVisitRules | restart | setData w d =>
        rfl
    | inject input =>
        simp only [perform, inject, ruleEdits]
        rcases m.hooks.inject (m.label i.current) input i.surroundings i.data with
          ⟨w, d, failure | _⟩ <;> rfl
    | _ =>
        exact absurd trivial hop

theorem performAll_rules
    (m : Machine ω D)
    (ops : List (Operation ω D))
    (i : Instance ω D) :
    (m.performAll ops i).rules =
      (ops.flatMap m.ruleEdits).foldl VisitRules.edit i.rules := by
  induction ops generalizing i with
  | nil =>
      rfl
  | cons op rest ih =>
      rw [List.flatMap_cons, List.foldl_append, ← m.perform_rules op i]
      exact ih _

/-! ### Caps and steps -/

/-- Counting a visit raises the count of that state by one, and no other. -/
theorem getD_modify_succ
    (visits : List Nat)
    (s t : Nat) :
    (visits.modify s (· + 1)).getD t 0 =
      visits.getD t 0 + if s = t ∧ t < visits.length then 1 else 0 := by
  simp only [List.getD_eq_getElem?_getD, List.getElem?_modify]
  by_cases hst : s = t <;> by_cases ht : t < visits.length <;> simp [hst, ht]

section Caps

variable (m : Machine ω D) {i : Instance ω D}

theorem checkCap_of_cap
    {cap : Nat}
    (hget : i.rules.caps.get? i.current = some cap) :
    m.checkCap i =
      if cap ≤ i.visits.getD i.current 0 then
        .error (.visitLimitExceeded
          (.tooManyVisits (m.label i.current) cap (i.visits.getD i.current 0 + 1)))
      else .ok () := by
  simp only [checkCap, VisitRules.checkEntry_of_cap hget, Nat.lt_succ_iff]
  split_ifs <;> rfl

/-- A step that is taken from a capped state was still allowed. -/
theorem visits_lt_of_checkCap
    {cap : Nat}
    (hget : i.rules.caps.get? i.current = some cap)
    (hcap : m.checkCap i = .ok ()) :
    i.visits.getD i.current 0 < cap := by
  rw [m.checkCap_of_cap hget] at hcap
  split_ifs at hcap with hfull
  exact Nat.lt_of_not_le hfull

/-- A cap is checked before anything else is done in a state that can be left. -/
theorem advance_of_checkCap_error
    (hopen : m.isComplete i = false)
    {e : RunError}
    (hcap : m.checkCap i = .error e)
    (forced : Option Bool) :
    m.advance forced i = (i, .error e) := by
  have hrow : (m.row? i.current).getD .terminal ≠ .terminal := by
    intro hterminal
    rw [(m.isComplete_iff i).2 hterminal] at hopen
    cases hopen
  unfold advance
  cases hkind : (m.row? i.current).getD .terminal with
  | terminal => exact absurd hkind hrow
  | action next | decision onTrue onFalse => simp only [hcap]

/-- A step from a state whose cap is reached is refused, and leaves everything as it
is. -/
theorem advance_of_cap_le
    (hopen : m.isComplete i = false)
    {cap : Nat}
    (hget : i.rules.caps.get? i.current = some cap)
    (hfull : cap ≤ i.visits.getD i.current 0)
    (forced : Option Bool) :
    m.advance forced i =
      (i, .error (.visitLimitExceeded
        (.tooManyVisits (m.label i.current) cap (i.visits.getD i.current 0 + 1)))) := by
  apply m.advance_of_checkCap_error hopen
  rw [m.checkCap_of_cap hget, if_pos hfull]

end Caps

/-! ### Quotas that are in force -/

/-- The rules of an instance are those of the edits since its creation. -/
theorem rules_performAll_newInstance
    (m : Machine ω D)
    (ops : List (Operation ω D))
    (w : ω)
    (d : D) :
    (m.performAll ops (m.newInstance w d)).rules =
      .ofEdits (ops.flatMap m.ruleEdits) :=
  m.performAll_rules ops _

/-- While a quota is in force, every check above it fails exactly if the quota was not
raised, and then no step takes the visits of its state above it, whatever operations
came before.  A run or a replay takes no other steps: the instances that it passes
through are those that its steps lead to when they are taken one by one. -/
theorem quota_refuses_unless_raised
    (m : Machine ω D) :
    (∀ edits s quota, (VisitRules.ofEdits edits).quotas.get? s = some quota →
      ((∀ nameOf visits, quota < visits → ∃ violation,
          (VisitRules.ofEdits edits).checkEntry nameOf s visits = .error violation) ↔
        ¬ VisitRules.Raised s quota edits)) ∧
    ∀ w d ops i s quota, i = m.performAll ops (m.newInstance w d) →
      i.rules.quotas.get? s = some quota →
      ¬ VisitRules.Raised s quota (ops.flatMap m.ruleEdits) →
      i.current = s → m.isComplete i = false → quota < i.visits.getD s 0 + 1 →
      ∀ forced, ∃ cap, cap ≤ quota ∧
        m.advance forced i =
          (i, .error (.visitLimitExceeded
            (.tooManyVisits (m.label s) cap (i.visits.getD s 0 + 1)))) := by
  refine ⟨fun edits s quota h => VisitRules.checkEntry_fails_iff h, ?_⟩
  rintro w d ops i s quota hi hquota hraised rfl hopen hvisits forced
  have hrules : i.rules = .ofEdits (ops.flatMap m.ruleEdits) := by
    rw [hi, rules_performAll_newInstance]
  rw [hrules] at hquota
  obtain ⟨cap, hcap, hgreater⟩ := VisitRules.exists_cap_of_quota hquota
  have hle : cap ≤ quota := Nat.le_of_not_lt fun hlt => hraised (hgreater.1 hlt)
  rw [← hrules] at hcap
  exact ⟨cap, hle, m.advance_of_cap_le hopen hcap (by omega) forced⟩

/-- The second visit of a state of the small machine that is to be left once. -/
theorem quota_refuses_retry :
    ∃ i : Instance Nat Nat,
      i = Blueprint.retryMachine.performAll
        [.capVisits "Init" 5, .requireVisits "Init" 1, .step, .step]
        (Blueprint.retryMachine.newInstance 0 0) ∧
      i.rules.quotas.get? 0 = some 1 ∧
      i.current = 0 ∧
      i.visits.getD 0 0 = 1 ∧
      ∀ forced, ∃ cap, cap ≤ 1 ∧
        Blueprint.retryMachine.advance forced i =
          (i, .error (.visitLimitExceeded (.tooManyVisits "Init" cap 2))) := by
  refine ⟨_, rfl, by decide +kernel, by decide +kernel, by decide +kernel, ?_⟩
  have hedits : [.capVisits "Init" 5, .requireVisits "Init" 1, .step, .step].flatMap
      Blueprint.retryMachine.ruleEdits = [.cap 0 5] ++ [.quota 0 1] := by
    decide +kernel
  have hraised : ¬ VisitRules.Raised 0 1
      ([.capVisits "Init" 5, .requireVisits "Init" 1, .step, .step].flatMap
        Blueprint.retryMachine.ruleEdits) := by
    rw [hedits, VisitRules.raised_concat]
    simp [VisitRules.Edit.Spares]
  exact (quota_refuses_unless_raised Blueprint.retryMachine).2 0 0 _ _ 0 1 rfl
    (by decide +kernel) hraised (by decide +kernel) (by decide +kernel) (by decide +kernel)

end Machine
end Flowchart

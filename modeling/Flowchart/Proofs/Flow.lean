import Flowchart.Proofs.Build
import Flowchart.Proofs.Operation
import Mathlib

/-!
# Conservation of flow

The transitions since a run began lead from the start of the machine to the current
state.  So every state is entered as often as it is left, but for the start, which is
left once without being entered, and the current state, which is still to be left.

The books agree with these transitions: the counter with their number, the visits of
a state with the number of those that leave it, and the log with their sources.  A
transition is entered in all books at once, a restart empties them all, and nothing
else touches one of them.
-/

namespace Flowchart
namespace Machine

variable {ω D : Type} {m : Machine ω D}

/-- Transitions of the table, one after the other, from the start to a state. -/
inductive Trail (m : Machine ω D) : List Transition → StateId → Prop
  | nil :
      Trail m [] m.start
  | snoc {history : List Transition} {t : Transition}
      (htrail : Trail m history t.source)
      (hedge : m.Edge t.source t.branch t.target) :
      Trail m (history ++ [t]) t.target

namespace Trail

variable {history : List Transition} {current : StateId}

/-- Each state is entered as often as it is left, up to the two ends. -/
theorem flow
    (htrail : m.Trail history current)
    (s : StateId) :
    history.countP (fun t => t.target = s) + (if s = m.start then 1 else 0) =
      history.countP (fun t => t.source = s) + (if s = current then 1 else 0) := by
  induction htrail with
  | nil =>
      simp
  | @snoc history t _ _ ih =>
      have htarget : (t.target = s) = (s = t.target) := propext eq_comm
      have hsource : (t.source = s) = (s = t.source) := propext eq_comm
      simp only [List.countP_append, List.countP_singleton, decide_eq_true_eq,
        htarget, hsource]
      omega

theorem edge_of_mem
    (htrail : m.Trail history current) :
    ∀ t ∈ history, m.Edge t.source t.branch t.target := by
  induction htrail with
  | nil =>
      simp
  | @snoc history t _ hedge ih =>
      intro u hu
      rcases List.mem_append.1 hu with hu | hu
      · exact ih u hu
      · rw [List.mem_singleton.1 hu]
        exact hedge

end Trail

/-- The books of an instance that has taken the given transitions. -/
structure Books (m : Machine ω D) (history : List Transition) (i : Instance ω D) :
    Prop where
  trail : m.Trail history i.current
  steps_eq : i.steps = history.length
  length_visits : i.visits.length = m.states.length
  sum_visits : i.visits.sum = history.length
  visits_eq : ∀ s < m.states.length,
    i.visits[s]? = some (history.countP fun t => t.source = s)
  sources_eq : m.settings.recordTransitions = true →
    i.log.records.toList.map Record.source = history.map fun t => m.label t.source

/-- One more visit of a state adds one to the sum. -/
theorem sum_modify_succ
    {visits : List Nat}
    {s : Nat}
    (hs : s < visits.length) :
    (visits.modify s (· + 1)).sum = visits.sum + 1 := by
  induction visits generalizing s with
  | nil =>
      simp at hs
  | cons count rest ih =>
      cases s with
      | zero =>
          simp only [List.modify_zero_cons, List.sum_cons]
          omega
      | succ s =>
          simp only [List.modify_succ_cons, List.sum_cons]
          rw [ih (by simpa using hs)]
          omega

namespace Books

variable {history : List Transition} {i : Instance ω D}

theorem newInstance
    (w : ω)
    (d : D) :
    m.Books [] (m.newInstance w d) where
  trail := .nil
  steps_eq := rfl
  length_visits := by simp [Machine.newInstance]
  sum_visits := by simp [Machine.newInstance]
  visits_eq := by
    intro s hs
    simp [Machine.newInstance, hs]
  sources_eq := by
    intro _
    rfl

theorem restart
    (h : m.Books history i) :
    m.Books [] (m.restart i) where
  trail := .nil
  steps_eq := rfl
  length_visits := by simpa [Machine.restart] using h.length_visits
  sum_visits := by simp [Machine.restart]
  visits_eq := by
    intro s hs
    rw [← h.length_visits] at hs
    simp [Machine.restart, hs]
  sources_eq := by
    intro _
    rfl

/-- Surroundings, data and visit rules are not in the books. -/
theorem edit
    (h : m.Books history i)
    (w : ω)
    (d : D)
    (rules : VisitRules) :
    m.Books history { i.withEffect w d with rules := rules } :=
  { h with }

/-- A transition is entered in all books. -/
theorem commit
    (h : m.Books history i)
    {branch : Option Bool}
    {target : StateId}
    (hedge : m.Edge i.current branch target) :
    m.Books (history ++ [⟨i.current, branch, target⟩]) (m.commit target branch i) where
  trail := .snoc h.trail hedge
  steps_eq := by
    simp [h.steps_eq]
  length_visits := by
    simp [h.length_visits]
  sum_visits := by
    have hlt : i.current < i.visits.length := by
      rw [h.length_visits]
      exact hedge.source_lt
    rw [commit_visits, sum_modify_succ hlt, h.sum_visits, List.length_append]
    rfl
  visits_eq := by
    intro s hs
    rw [commit_visits, List.getElem?_modify, h.visits_eq s hs, List.countP_append]
    by_cases hcurrent : i.current = s <;> simp [hcurrent]
  sources_eq := by
    intro hrecord
    rw [commit_log_of_recording _ _ _ _ hrecord, Log.push, Array.toList_push,
      List.map_append, List.map_append, h.sources_eq hrecord]
    rfl

/-- A course enters its transitions. -/
theorem course
    (h : m.Books history i)
    {j : Instance ω D}
    {taken : List Transition}
    {e : Option RunError}
    (hcourse : m.Course i taken e j) :
    m.Books (history ++ taken) j := by
  induction hcourse generalizing history with
  | stay i =>
      simpa using h
  | refused hrefused =>
      simpa using h
  | failed hfailed =>
      obtain ⟨w, d, rfl⟩ := (Advance.of_eq hfailed).effect_of_error
      rw [List.append_nil]
      exact h.edit w d _
  | step hstep _ ih =>
      rw [← List.append_assoc]
      apply ih
      rcases (Advance.of_eq hstep).halts_or_commits with
        ⟨-, -, rfl, rfl⟩ | ⟨branch, target, w, d, -, -, hedge, rfl, rfl⟩
      · simpa [StepResult.transitions] using h
      · exact (h.edit w d _).commit hedge

end Books

/-- The books of every instance are those of its history. -/
theorem History.books
    {history : List Transition}
    {i : Instance ω D}
    (h : m.History history i) :
    m.Books history i := by
  induction h with
  | start w d =>
      exact .newInstance w d
  | @perform history i op _ ih =>
      by_cases hop : op.Travels
      · have hne : op ≠ .restart := by
          rintro rfl
          exact hop
        rw [m.historyAfter_of_ne_restart hne]
        exact ih.course (m.course_of_travels hop i)
      · rcases m.perform_of_not_travels hop i with
          ⟨rfl, hrestart⟩ | ⟨hne, w, d, rules, -, hedited⟩
        · exact ih.restart
        · rw [m.historyAfter_of_ne_restart hne, m.transitions_of_not_travels hop,
            List.append_nil, hedited]
          exact ih.edit w d rules

/-- A reachable instance counts the visits of every state of its machine. -/
theorem Reachable.length_visits
    {i : Instance ω D}
    (hi : m.Reachable i) :
    i.visits.length = m.states.length := by
  obtain ⟨history, hhistory⟩ := hi.exists_history
  exact hhistory.books.length_visits

/-- What the books of an instance say about the transitions since its run began. -/
structure Balanced (m : Machine ω D) (history : List Transition) (i : Instance ω D) :
    Prop where
  steps_eq : i.steps = history.length
  sum_visits : i.visits.sum = i.steps
  terminal : ∀ s, m.kind? s = some .terminal → i.visits[s]? = some 0
  entered : ∀ s count, i.visits[s]? = some count →
    history.countP (fun t => t.target = s) + (if s = m.start then 1 else 0) =
      count + (if s = i.current then 1 else 0)
  left : ∀ s count, i.visits[s]? = some count →
    count = history.countP fun t => t.source = s
  logged : m.settings.recordTransitions = true → ∀ s name count,
    m.nameOf? s = some name → i.visits[s]? = some count →
    count = i.log.records.toList.countP fun r => r.source = name

namespace Books

variable {history : List Transition} {i : Instance ω D}

theorem left_eq
    (h : m.Books history i)
    {s : StateId}
    {count : Nat}
    (hcount : i.visits[s]? = some count) :
    count = history.countP fun t => t.source = s := by
  have hlt : s < m.states.length := by
    rw [← h.length_visits]
    exact (List.getElem?_eq_some_iff.1 hcount).1
  rw [h.visits_eq s hlt] at hcount
  exact (Option.some.inj hcount).symm

/-- No transition leaves a terminal state. -/
theorem visits_of_terminal
    (h : m.Books history i)
    {s : StateId}
    (hs : m.kind? s = some .terminal) :
    i.visits[s]? = some 0 := by
  obtain ⟨row, hrow, -⟩ := Option.map_eq_some_iff.1 hs
  obtain ⟨state, hstate, -⟩ := Option.map_eq_some_iff.1 hrow
  rw [h.visits_eq s (List.getElem?_eq_some_iff.1 hstate).1]
  refine congrArg some (List.countP_eq_zero.2 ?_)
  intro t ht
  have hkind := (h.trail.edge_of_mem t ht).kind_ne_terminal
  simp only [decide_eq_true_eq]
  rintro rfl
  exact hkind hs

/-- Where names are not shared, the records that leave a state by its name are the
transitions that leave it. -/
theorem countP_source_eq
    (h : m.Books history i)
    (hrecord : m.settings.recordTransitions = true)
    {s : StateId}
    {name : String}
    (hunique : ∀ p, m.nameOf? p = some name → p = s)
    (hname : m.nameOf? s = some name) :
    (i.log.records.toList.countP fun r => r.source = name) =
      history.countP fun t => t.source = s := by
  have hlog : (i.log.records.toList.countP fun r => r.source = name) =
      (i.log.records.toList.map Record.source).countP fun source => source = name := by
    rw [List.countP_map]
    rfl
  rw [hlog, h.sources_eq hrecord, List.countP_map]
  apply List.countP_congr
  intro t ht
  have hsource := nameOf?_of_lt m (h.trail.edge_of_mem t ht).source_lt
  simp only [Function.comp_apply, decide_eq_true_eq]
  constructor
  · intro hlabel
    rw [hlabel] at hsource
    exact hunique _ hsource
  · rintro rfl
    exact Option.some.inj (hsource.symm.trans hname)

end Books

/-- In a built machine all books agree with the transitions since the run began, and
these conserve the flow through every state. -/
theorem balanced_of_reachable
    {b : Blueprint ω D}
    (hbuild : b.build = .ok m)
    {i : Instance ω D}
    (hi : m.Reachable i) :
    i.visits.length = b.declarations.length ∧
    (∃ history, m.History history i) ∧
    ∀ history, m.History history i → m.Balanced history i := by
  obtain ⟨history, hhistory⟩ := hi.exists_history
  refine ⟨?_, ⟨history, hhistory⟩, ?_⟩
  · rw [hhistory.books.length_visits, Blueprint.length_states_of_build hbuild]
  · intro history hhistory
    have hbooks := hhistory.books
    exact {
      steps_eq := hbooks.steps_eq
      sum_visits := by rw [hbooks.sum_visits, hbooks.steps_eq]
      terminal := fun s hs => hbooks.visits_of_terminal hs
      entered := by
        intro s count hcount
        rw [hbooks.left_eq hcount]
        exact hbooks.trail.flow s
      left := fun s count hcount => hbooks.left_eq hcount
      logged := by
        intro hrecord s name count hname hcount
        have hunique : ∀ p, m.nameOf? p = some name → p = s :=
          fun p hp => Blueprint.id_eq_of_nameOf? hbuild hp hname
        rw [hbooks.left_eq hcount, hbooks.countP_source_eq hrecord hunique hname] }

/-- Two runs of the small machine, of which the books show the second. -/
theorem balanced_retry :
    ∃ i : Instance Nat Nat,
      Blueprint.retry.build = .ok Blueprint.retryMachine ∧
      Blueprint.retryMachine.Reachable i ∧
      i.steps = 2 ∧
      i.visits = [1, 1, 0] ∧
      i.visits.length = Blueprint.retry.declarations.length ∧
      (∃ history, Blueprint.retryMachine.History history i) ∧
      ∀ history, Blueprint.retryMachine.History history i →
        Blueprint.retryMachine.Balanced history i := by
  have hi : Blueprint.retryMachine.Reachable _ :=
    .perform (.runToCompletion 10)
      (.perform .restart (.perform (.runToCompletion 10) (.start 0 0)))
  exact ⟨_, Blueprint.build_retry, hi, by decide +kernel, by decide +kernel,
    balanced_of_reachable Blueprint.build_retry hi⟩

end Machine
end Flowchart

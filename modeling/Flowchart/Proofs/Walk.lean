import Flowchart.Proofs.Build
import Flowchart.Proofs.Operation

/-!
# The log is the walk of the run

A walk starts at the start of the machine and takes one transition of the table
after another.  The records of a reachable instance are a walk to its current
state, as long as the machine keeps a log: a transition adds one record at the
end, a restart leaves none, and everything else leaves log, counter and current
state alone.
-/

namespace Flowchart
namespace Machine

variable {ω D : Type}

/-- Records that lead from the start of a machine to a state, numbered from one. -/
inductive Walk (m : Machine ω D) : List Record → StateId → Prop
  | nil :
      Walk m [] m.start
  | snoc {records : List Record} {source target : StateId} {r : Record}
      (hwalk : Walk m records source)
      (hedge : m.Edge source r.branch target)
      (hstep : r.step = records.length + 1)
      (hsource : r.source = m.label source)
      (htarget : r.target = m.label target) :
      Walk m (records ++ [r]) target

/-- What a log says about an instance if it is exactly the walk of its run. -/
structure LogsWalk (m : Machine ω D) (i : Instance ω D) : Prop where
  size_eq : i.log.size = i.steps
  step_eq : ∀ k r, i.log.records[k]? = some r → r.step = k + 1
  first_source : ∀ r, i.log.records[0]? = some r → m.nameOf? m.start = some r.source
  target_eq_source : ∀ k r s,
    i.log.records[k]? = some r → i.log.records[k + 1]? = some s → r.target = s.source
  last_target : ∀ r, i.log.records.back? = some r → m.nameOf? i.current = some r.target
  current_of_empty : i.log.records = #[] → i.current = m.start
  edge : ∀ r ∈ i.log.records, ∃ source target,
    m.nameOf? source = some r.source ∧
    m.nameOf? target = some r.target ∧
    m.Edge source r.branch target

namespace Walk

variable {m : Machine ω D} {records : List Record} {current : StateId}

theorem current_lt
    (hm : m.WellFormed)
    (hwalk : m.Walk records current) :
    current < m.states.length := by
  cases hwalk with
  | nil => exact hm.start_lt
  | snoc _ hedge => exact hedge.target_lt hm

theorem current_of_nil
    (hwalk : m.Walk records current)
    (hempty : records = []) :
    current = m.start := by
  cases hwalk with
  | nil => rfl
  | snoc => simp at hempty

theorem step_eq
    (hwalk : m.Walk records current) :
    ∀ k r, records[k]? = some r → r.step = k + 1 := by
  induction hwalk with
  | nil =>
      simp
  | @snoc records source target last _ _ hstep _ _ ih =>
      intro k r hr
      rcases Nat.lt_trichotomy k records.length with hlt | rfl | hgt
      · rw [List.getElem?_append_left hlt] at hr
        exact ih k r hr
      · have heq : last = r := by simpa using hr
        rw [← heq, hstep]
      · have hlength : (records ++ [last]).length ≤ k := by
          rw [List.length_append]
          exact hgt
        rw [List.getElem?_eq_none hlength] at hr
        cases hr

theorem first_source
    (hwalk : m.Walk records current) :
    ∀ r, records[0]? = some r → r.source = m.label m.start := by
  induction hwalk with
  | nil =>
      simp
  | @snoc records source target last hwalk _ _ hsource _ ih =>
      intro r hr
      cases hwalk with
      | nil =>
          have heq : last = r := by simpa using hr
          rw [← heq, hsource]
      | @snoc before _ _ previous =>
          apply ih
          rwa [List.getElem?_append_left (by simp)] at hr

theorem last_target
    (hwalk : m.Walk records current) :
    ∀ r, records.getLast? = some r → r.target = m.label current := by
  cases hwalk with
  | nil =>
      simp
  | @snoc records source target last _ _ _ _ htarget =>
      intro r hr
      have heq : last = r := by simpa using hr
      rw [← heq, htarget]

theorem target_eq_source
    (hwalk : m.Walk records current) :
    ∀ k r s, records[k]? = some r → records[k + 1]? = some s →
      r.target = s.source := by
  induction hwalk with
  | nil =>
      simp
  | @snoc records source target last hwalk _ _ hsource _ ih =>
      intro k r s hr hs
      rcases Nat.lt_trichotomy (k + 1) records.length with hlt | heq | hgt
      · rw [List.getElem?_append_left hlt] at hs
        rw [List.getElem?_append_left (by omega)] at hr
        exact ih k r s hr hs
      · have hlast : last = s := by
          simpa [heq] using hs
        rw [List.getElem?_append_left (by omega)] at hr
        have hback : records.getLast? = some r := by
          rw [List.getLast?_eq_getElem?, ← hr]
          congr 1
          omega
        rw [hwalk.last_target r hback, ← hlast, hsource]
      · have hlength : (records ++ [last]).length ≤ k + 1 := by
          simp
          omega
        rw [List.getElem?_eq_none hlength] at hs
        cases hs

theorem edge
    (hwalk : m.Walk records current) :
    ∀ r ∈ records, ∃ source target,
      r.source = m.label source ∧
      r.target = m.label target ∧
      m.Edge source r.branch target := by
  induction hwalk with
  | nil =>
      simp
  | @snoc records source target last _ hedge _ hsource htarget ih =>
      intro r hr
      rcases List.mem_append.1 hr with hr | hr
      · exact ih r hr
      · rw [List.mem_singleton.1 hr]
        exact ⟨source, target, hsource, htarget, hedge⟩

end Walk

/-- A walk in the log says everything that a log can say. -/
theorem logsWalk_of_walk
    {m : Machine ω D}
    (hm : m.WellFormed)
    {i : Instance ω D}
    (hsize : i.log.size = i.steps)
    (hwalk : m.Walk i.log.records.toList i.current) :
    m.LogsWalk i where
  size_eq := hsize
  step_eq := by
    intro k r hr
    exact hwalk.step_eq k r (by simpa using hr)
  first_source := by
    intro r hr
    rw [nameOf?_of_lt m hm.start_lt]
    exact congrArg some (hwalk.first_source r (by simpa using hr)).symm
  target_eq_source := by
    intro k r s hr hs
    exact hwalk.target_eq_source k r s (by simpa using hr) (by simpa using hs)
  last_target := by
    intro r hr
    rw [nameOf?_of_lt m (hwalk.current_lt hm)]
    exact congrArg some (hwalk.last_target r (by simpa using hr)).symm
  current_of_empty := by
    intro hempty
    exact hwalk.current_of_nil (by simp [hempty])
  edge := by
    intro r hr
    obtain ⟨source, target, hsource, htarget, hedge⟩ :=
      hwalk.edge r (by simpa using hr)
    refine ⟨source, target, ?_, ?_, hedge⟩
    · rw [nameOf?_of_lt m hedge.source_lt, hsource]
    · rw [nameOf?_of_lt m (hedge.target_lt hm), htarget]

/-- Every change keeps the records a walk to the current state. -/
theorem walk_of_change
    {m : Machine ω D}
    (hrecord : m.settings.recordTransitions = true)
    {i j : Instance ω D}
    (hchange : m.Change i j)
    (hi : i.log.size = i.steps ∧ m.Walk i.log.records.toList i.current) :
    j.log.size = j.steps ∧ m.Walk j.log.records.toList j.current := by
  obtain ⟨hsize, hwalk⟩ := hi
  cases hchange with
  | effect w d =>
      exact ⟨hsize, hwalk⟩
  | rules rules =>
      exact ⟨hsize, hwalk⟩
  | restart =>
      exact ⟨rfl, .nil⟩
  | @commit target branch hcap hedge =>
      rw [commit_log_of_recording _ _ _ _ hrecord]
      refine ⟨?_, ?_⟩
      · simpa [Log.size, Log.push] using hsize
      · have hlength : i.log.records.toList.length = i.steps := by
          simpa [Log.size] using hsize
        rw [Log.push, Array.toList_push]
        exact .snoc hwalk hedge (by rw [hlength]; rfl) rfl rfl

/-- The log of every reachable instance is the walk of its run if the machine
keeps a log, and empty if it does not. -/
theorem log_is_walk_of_reachable
    {b : Blueprint ω D}
    {m : Machine ω D}
    (hbuild : b.build = .ok m)
    {i : Instance ω D}
    (hi : m.Reachable i) :
    (m.settings.recordTransitions = true → m.LogsWalk i) ∧
    (m.settings.recordTransitions = false → i.log.records = #[]) := by
  constructor
  · intro hrecord
    obtain ⟨hsize, hwalk⟩ := hi.invariant
      (P := fun i => i.log.size = i.steps ∧ m.Walk i.log.records.toList i.current)
      (fun _ _ => ⟨rfl, .nil⟩)
      (fun _ _ hchange => walk_of_change hrecord hchange)
    exact logsWalk_of_walk (Blueprint.wellFormed_of_build hbuild) hsize hwalk
  · intro hrecord
    apply hi.invariant (P := fun i => i.log.records = #[])
    · intro w d
      rfl
    · intro i j hchange hempty
      cases hchange with
      | effect w d => exact hempty
      | rules rules => exact hempty
      | restart => rfl
      | commit hcap hedge =>
          rw [commit_log_of_not_recording _ _ _ _ hrecord]
          exact hempty

/-- A run of the small machine, whose six records are its walk. -/
theorem logsWalk_retry :
    ∃ i : Instance Nat Nat,
      Blueprint.retry.build = .ok Blueprint.retryMachine ∧
      Blueprint.retryMachine.Reachable i ∧
      i.log.size = 6 ∧
      Blueprint.retryMachine.LogsWalk i := by
  have hi : Blueprint.retryMachine.Reachable _ :=
    .perform (.runToCompletion 10) (.perform .step (.start 0 0))
  refine ⟨_, Blueprint.build_retry, hi, by decide +kernel, ?_⟩
  exact (log_is_walk_of_reachable Blueprint.build_retry hi).1 rfl

end Machine
end Flowchart

import Flowchart.Proofs.Flow
import Flowchart.Proofs.Observation
import Flowchart.Proofs.Walk

/-!
# Outcomes determine the route

From an action there is one way on, and from a decision one way on for each outcome.  So
two walks that take the same branches take the same transitions.

The outcomes of a walk are its branches without those of the actions, which have none.
They still tell the branches: as long as two walks agree they stand in the same state, so
the next transition of both is that of an action, or that of a decision whose outcome is
the next of the outcomes.
-/

namespace Flowchart

variable {ω D : Type}

/-- The first records of a log. -/
def Log.take (log : Log) (count : Nat) : Log :=
  ⟨log.records.take count⟩

/-- One of the two lists goes on where the other ends. -/
def Comparable {α : Type} (first second : List α) : Prop :=
  first <+: second ∨ second <+: first

theorem Comparable.symm
    {α : Type}
    {first second : List α}
    (h : Comparable first second) :
    Comparable second first :=
  Or.symm h

theorem Comparable.of_append_left
    {α : Type}
    {common first second : List α}
    (h : Comparable (common ++ first) (common ++ second)) :
    Comparable first second := by
  simpa [Comparable] using h

theorem Comparable.of_append_right
    {α : Type}
    {first more second : List α}
    (h : Comparable (first ++ more) second) :
    Comparable first second := by
  rcases h with h | h
  · exact .inl ((List.prefix_append _ _).trans h)
  · exact List.prefix_or_prefix_of_prefix (List.prefix_append _ _) h

theorem Log.toList_untimed
    (log : Log) :
    log.untimed.records.toList = log.records.toList.map Record.untimed := by
  simp [untimed]

theorem filterMap_branch_cons
    (r : Record)
    (rest : List Record) :
    (r :: rest).filterMap Record.branch =
      r.branch.toList ++ rest.filterMap Record.branch := by
  cases hbranch : r.branch <;> simp [hbranch]

theorem filterMap_branch_of_map
    {first second : List Record}
    (h : first.map Record.branch = second.map Record.branch) :
    first.filterMap Record.branch = second.filterMap Record.branch := by
  have hsome := congrArg (List.filterMap id) h
  simpa only [List.filterMap_map, Function.id_comp] using hsome

/-- Where records go on, the path goes on. -/
theorem Log.path_prefix
    {log log' : Log}
    (h : log.untimed.records.toList <+: log'.untimed.records.toList) :
    log.path <+: log'.path := by
  rw [← path_untimed log, ← path_untimed log']
  obtain ⟨rest, hrest⟩ := h
  unfold path
  rw [← hrest]
  cases log.untimed.records.toList with
  | nil => exact List.nil_prefix
  | cons first more => simp

theorem Log.branches_take_prefix
    (log : Log)
    (count : Nat) :
    (log.take count).branches <+: log.branches := by
  have htake : (log.take count).records.toList = log.records.toList.take count := by
    simp [take]
  unfold branches
  rw [htake]
  exact (List.take_prefix _ _).filterMap _

/-- Two instances that have gone the same way. -/
structure Instance.SameRoute (i j : Instance ω D) : Prop where
  path_eq : i.log.path = j.log.path
  current_eq : i.current = j.current
  visits_eq : i.visits = j.visits

namespace Machine

variable {m : Machine ω D}

/-- A branch leads to one target. -/
theorem Edge.target_unique
    {source target target' : StateId}
    {branch : Option Bool}
    (h : m.Edge source branch target)
    (h' : m.Edge source branch target') :
    target = target' := by
  cases h with
  | action hrow =>
      cases h' with
      | action hrow' =>
          cases hrow.symm.trans hrow'
          rfl
  | decision outcome hrow =>
      cases h' with
      | decision _ hrow' =>
          cases hrow.symm.trans hrow'
          rfl

/-- Two transitions from one state are of the same kind.  So they have the same branch,
unless they are those of a decision and their outcomes differ. -/
theorem Edge.branch_eq_of_comparable
    {source target target' : StateId}
    {branch branch' : Option Bool}
    (h : m.Edge source branch target)
    (h' : m.Edge source branch' target')
    (hcomparable : Comparable branch.toList branch'.toList) :
    branch = branch' := by
  cases h with
  | action hrow =>
      cases h' with
      | action hrow' => rfl
      | decision _ hrow' => cases hrow.symm.trans hrow'
  | decision outcome hrow =>
      cases h' with
      | action hrow' => cases hrow.symm.trans hrow'
      | decision outcome' hrow' =>
          rcases hcomparable with hfirst | hfirst <;> simpa [eq_comm] using hfirst

namespace Walk

variable {first second : List Record} {s s' : StateId}

/-- A walk that goes on after some records goes on by a transition from where they
lead. -/
theorem exists_next
    {r : Record}
    {rest : List Record}
    (hwalk : m.Walk (first ++ r :: rest) s) :
    ∃ source target, m.Walk first source ∧ m.Edge source r.branch target := by
  generalize hrecords : first ++ r :: rest = records at hwalk
  induction hwalk generalizing rest with
  | nil =>
      simp at hrecords
  | @snoc records source target last hwalk hedge _ _ _ ih =>
      rcases List.eq_nil_or_concat rest with rfl | ⟨before, last', rfl⟩
      · obtain ⟨rfl, hlast⟩ := List.append_inj' hrecords rfl
        obtain rfl : r = last := by simpa using hlast
        exact ⟨source, target, hwalk, hedge⟩
      · rw [List.concat_eq_append, ← List.cons_append, ← List.append_assoc] at hrecords
        exact ih (List.append_inj' hrecords rfl).1

/-- The first records of a walk are a walk. -/
theorem exists_of_append
    {rest : List Record}
    (hwalk : m.Walk (first ++ rest) s) :
    ∃ source, m.Walk first source := by
  cases rest with
  | nil =>
      exact ⟨s, by simpa using hwalk⟩
  | cons r rest =>
      obtain ⟨source, target, hfirst, -⟩ := hwalk.exists_next
      exact ⟨source, hfirst⟩

/-- Two walks with the same branches are the same up to their times. -/
theorem eq_of_branches
    (hfirst : m.Walk first s)
    (hsecond : m.Walk second s')
    (hbranches : first.map Record.branch = second.map Record.branch) :
    first.map Record.untimed = second.map Record.untimed ∧ s = s' := by
  induction hfirst generalizing second s' with
  | nil =>
      obtain rfl := List.map_eq_nil_iff.1 hbranches.symm
      exact ⟨rfl, (hsecond.current_of_nil rfl).symm⟩
  | @snoc records source target r _ hedge hstep hsource htarget ih =>
      cases hsecond with
      | nil =>
          simp at hbranches
      | @snoc records' source' _ r' hwalk' hedge' hstep' hsource' htarget' =>
          simp only [List.map_append, List.map_cons, List.map_nil] at hbranches ⊢
          obtain ⟨hbefore, hlast⟩ := List.append_inj' hbranches rfl
          obtain ⟨hsame, rfl⟩ := ih hwalk' hbefore
          have hbranch : r.branch = r'.branch := (List.cons.inj hlast).1
          obtain rfl := hedge.target_unique (hbranch ▸ hedge')
          have hlength : records.length = records'.length := by
            simpa using congrArg List.length hsame
          have hrecord : r.untimed = r'.untimed := by
            simp [Record.untimed, hstep, hstep', hsource, hsource', htarget, htarget',
              hbranch, hlength]
          exact ⟨by rw [hsame, hrecord], rfl⟩

/-- Outcomes tell the branches: two walks whose outcomes agree as far as both go have
branches that agree as far as both go. -/
theorem comparable_of_outcomes
    (hfirst : m.Walk first s)
    (hsecond : m.Walk second s')
    (houtcomes : Comparable (first.filterMap Record.branch)
      (second.filterMap Record.branch)) :
    Comparable (first.map Record.branch) (second.map Record.branch) := by
  induction hfirst with
  | nil =>
      exact .inl List.nil_prefix
  | @snoc records source target r hwalk hedge _ _ _ ih =>
      rw [List.filterMap_append] at houtcomes
      rcases ih houtcomes.of_append_right with ⟨branches, hbefore⟩ | hafter
      · obtain ⟨common, rest, rfl, hcommon, rfl⟩ := List.map_eq_append_iff.1 hbefore.symm
        cases rest with
        | nil =>
            exact .inr (by simp [hcommon])
        | cons r' rest =>
            -- both walks stand in the same state, and go on by `r` and by `r'`
            obtain ⟨source', target', hwalk', hedge'⟩ := hsecond.exists_next
            obtain ⟨-, rfl⟩ := hwalk.eq_of_branches hwalk' hcommon.symm
            rw [List.filterMap_append, filterMap_branch_of_map hcommon,
              filterMap_branch_cons, filterMap_branch_cons] at houtcomes
            have hnext :=
              houtcomes.of_append_left.of_append_right.symm.of_append_right.symm
            have hbranch := hedge.branch_eq_of_comparable hedge' hnext
            exact .inl (by simp [hcommon, hbranch])
      · exact .inr (hafter.trans (by simp))

/-- The outcomes of a walk determine its records up to their times.  A walk that takes
some outcomes and no more transitions than another one that takes them first is the
beginning of that one. -/
theorem untimed_prefix_of_outcomes
    (hfirst : m.Walk first s)
    (hsecond : m.Walk second s')
    (hlength : first.length ≤ second.length)
    (houtcomes : Comparable (first.filterMap Record.branch)
      (second.filterMap Record.branch)) :
    first.map Record.untimed <+: second.map Record.untimed ∧
    (first.length = second.length → s = s') := by
  have hbranches : first.map Record.branch <+: second.map Record.branch := by
    rcases hfirst.comparable_of_outcomes hsecond houtcomes with h | h
    · exact h
    · have heq := h.eq_of_length_le (by simpa using hlength)
      rw [heq]
  obtain ⟨branches, hrest⟩ := hbranches
  obtain ⟨common, rest, rfl, hcommon, rfl⟩ := List.map_eq_append_iff.1 hrest.symm
  obtain ⟨source, hwalk⟩ := hsecond.exists_of_append
  obtain ⟨hsame, rfl⟩ := hfirst.eq_of_branches hwalk hcommon.symm
  refine ⟨by simp [hsame], ?_⟩
  intro hall
  have hrest : rest = [] := by
    have hcount : first.length = common.length := by
      simpa using congrArg List.length hsame
    rw [List.length_append, hcount] at hall
    exact List.eq_nil_of_length_eq_zero (by omega)
  subst hrest
  rw [List.append_nil] at hsecond
  exact (hwalk.eq_of_branches hsecond rfl).2

end Walk

/-- The log of a reachable instance is a walk. -/
theorem Reachable.walk
    (hrecord : m.settings.recordTransitions = true)
    {i : Instance ω D}
    (hi : m.Reachable i) :
    m.Walk i.log.records.toList i.current :=
  (hi.invariant
    (P := fun i => i.log.size = i.steps ∧ m.Walk i.log.records.toList i.current)
    (fun _ _ => ⟨rfl, .nil⟩) fun _ _ hchange => walk_of_change hrecord hchange).2

/-- In a built machine the sources of the records tell the visits. -/
theorem visits_eq_of_sources
    {b : Blueprint ω D}
    (hbuild : b.build = .ok m)
    (hrecord : m.settings.recordTransitions = true)
    {i j : Instance ω D}
    (hi : m.Reachable i)
    (hj : m.Reachable j)
    (hsources : i.log.records.toList.map Record.source =
      j.log.records.toList.map Record.source) :
    i.visits = j.visits := by
  obtain ⟨history, hhistory⟩ := hi.exists_history
  obtain ⟨history', hhistory'⟩ := hj.exists_history
  apply List.ext_getElem?
  intro s
  by_cases hs : s < m.states.length
  · have hname := nameOf?_of_lt m hs
    have hunique : ∀ p, m.nameOf? p = some (m.label s) → p = s :=
      fun p hp => Blueprint.id_eq_of_nameOf? hbuild hp hname
    rw [hhistory.books.visits_eq s hs, hhistory'.books.visits_eq s hs,
      ← hhistory.books.countP_source_eq hrecord hunique hname,
      ← hhistory'.books.countP_source_eq hrecord hunique hname]
    have hcount := congrArg (List.countP fun source => source = m.label s) hsources
    rw [List.countP_map, List.countP_map] at hcount
    exact congrArg some hcount
  · rw [List.getElem?_eq_none (by rw [hi.length_visits]; omega),
      List.getElem?_eq_none (by rw [hj.length_visits]; omega)]

/-- Two instances of a built machine that keep a log and took as many transitions with
the same outcomes have gone the same way, whatever their data were and whoever gave the
outcomes.  An instance that took fewer, with the first outcomes of the other, has gone the
first part of its way. -/
theorem outcomes_determine_route
    {b : Blueprint ω D}
    (hbuild : b.build = .ok m)
    (hrecord : m.settings.recordTransitions = true)
    {i j : Instance ω D}
    (hi : m.Reachable i)
    (hj : m.Reachable j) :
    (i.log.size = j.log.size → i.log.branches = j.log.branches → i.SameRoute j) ∧
    (i.log.size ≤ j.log.size → i.log.branches = (j.log.take i.log.size).branches →
      i.log.path <+: j.log.path) := by
  have hwalk := hi.walk hrecord
  have hwalk' := hj.walk hrecord
  constructor
  · intro hsize houtcomes
    have hcomparable : Comparable i.log.branches j.log.branches := by
      rw [houtcomes]
      exact .inl List.prefix_rfl
    obtain ⟨hbegins, hend⟩ :=
      hwalk.untimed_prefix_of_outcomes hwalk' (Nat.le_of_eq hsize) hcomparable
    have hrecords : i.log.records.toList.map Record.untimed =
        j.log.records.toList.map Record.untimed :=
      hbegins.eq_of_length (by simpa [Log.size] using hsize)
    have huntimed : i.log.untimed = j.log.untimed := by
      rw [← Log.toList_untimed, ← Log.toList_untimed] at hrecords
      exact congrArg Log.mk (Array.toList_inj.1 hrecords)
    exact {
      path_eq := by rw [← Log.path_untimed, huntimed, Log.path_untimed]
      current_eq := hend hsize
      visits_eq := by
        apply visits_eq_of_sources hbuild hrecord hi hj
        have hsources := congrArg (List.map Record.source) hrecords
        rw [List.map_map, List.map_map] at hsources
        exact hsources }
  · intro hsize houtcomes
    have hcomparable : Comparable i.log.branches j.log.branches := by
      rw [houtcomes]
      exact .inl (j.log.branches_take_prefix _)
    apply Log.path_prefix
    rw [Log.toList_untimed, Log.toList_untimed]
    exact (hwalk.untimed_prefix_of_outcomes hwalk' hsize hcomparable).1

/-- Three instances of the small machine.  The first decides by its data.  The others
would decide otherwise but are told the outcomes, the second after a restart. -/
theorem sameRoute_retry :
    ∃ i j k : Instance Nat Nat,
      Blueprint.retry.build = .ok Blueprint.retryMachine ∧
      Blueprint.retryMachine.Reachable i ∧
      Blueprint.retryMachine.Reachable j ∧
      Blueprint.retryMachine.Reachable k ∧
      i.log.branches = [false, false, true] ∧
      i.data ≠ j.data ∧
      k.log.size = 3 ∧
      i.SameRoute j ∧
      k.log.path <+: i.log.path := by
  have hi : Blueprint.retryMachine.Reachable _ :=
    .perform (.runToCompletion 10) (.start 0 0)
  have hj : Blueprint.retryMachine.Reachable _ :=
    .perform (.replayStep true) (.perform .step (.perform (.replayStep false)
      (.perform .step (.perform (.replayStep false) (.perform .step
        (.perform .restart (.perform (.runToCompletion 10) (.start 5 7))))))))
  have hk : Blueprint.retryMachine.Reachable _ :=
    .perform .step (.perform (.replayStep false) (.perform .step (.start 1 9)))
  refine ⟨_, _, _, Blueprint.build_retry, hi, hj, hk, by decide +kernel, by decide +kernel,
    by decide +kernel, ?_, ?_⟩
  · exact (outcomes_determine_route Blueprint.build_retry rfl hi hj).1 (by decide +kernel)
      (by decide +kernel)
  · exact (outcomes_determine_route Blueprint.build_retry rfl hk hi).2 (by decide +kernel)
      (by decide +kernel)

end Machine
end Flowchart

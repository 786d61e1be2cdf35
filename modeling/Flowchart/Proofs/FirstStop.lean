import Flowchart.Proofs.Audit
import Flowchart.Proofs.Session
import Flowchart.Proofs.Stopping

/-!
# The first step at which a run may stop

Whole steps lead from an instance to one instance each, as far as they go.  A run to a
goal stops at the first of them that meets the goal.  It stops before that only where the
machine has halted or where the next step fails, and does neither if the goal is met
there.

Every run is a loop that gives its verdict before each step.  So it is enough to say what
the verdict is as long as the goal has not been met.  The run past a state is different:
its goal is met by a step and not by an instance, so it looks back behind each step.
After a step that leaves another state it goes on as a run from there.
-/

namespace Flowchart

variable {ω D : Type}

namespace Machine

/-! ### Goals and how runs end -/

/-- So many whole steps can be taken, and the instance they lead to is as wanted. -/
def MeetsAt (m : Machine ω D) (i : Instance ω D) (wanted : Instance ω D → Prop)
    (count : Nat) : Prop :=
  ∃ j, m.Steps count i j ∧ wanted j

/-- So many whole steps can be taken, and the last one leaves the state. -/
def LeavesAt (m : Machine ω D) (i : Instance ω D) (id : StateId) : Nat → Prop
  | 0 => False
  | before + 1 =>
      m.MeetsAt i (fun j => j.current = id) before ∧ ∃ k, m.Steps (before + 1) i k

/-- How a run ends that stops after the first number of whole steps that meets its goal.
Before that it ends only where the machine has halted or where a step fails. -/
inductive StopsAt (m : Machine ω D) (i : Instance ω D) (goal : Nat → Prop)
    (onGoal onHalt : Instance ω D → Ending) : Nat → Instance ω D → Ending → Prop
  | met {count : Nat} {j : Instance ω D}
      (hsteps : m.Steps count i j)
      (hgoal : goal count)
      (hfirst : ∀ earlier < count, ¬ goal earlier) :
      StopsAt m i goal onGoal onHalt count j (onGoal j)
  | halted {count : Nat} {j : Instance ω D}
      (hsteps : m.Steps count i j)
      (hnever : ∀ earlier ≤ count, ¬ goal earlier)
      (hcomplete : m.isComplete j = true) :
      StopsAt m i goal onGoal onHalt count j (onHalt j)
  | broken {count : Nat} {j k : Instance ω D} {e : RunError}
      (hsteps : m.Steps count i j)
      (hnever : ∀ earlier ≤ count, ¬ goal earlier)
      (hopen : m.isComplete j = false)
      (hstep : m.step j = (k, .error e)) :
      StopsAt m i goal onGoal onHalt count k (.failed e)

/-- A run stops at the first step at which it may.  The bound on its steps plays no part
in this: as soon as it is large enough, the run ends there, and below that the run is
unfinished or ends there as well. -/
structure StopsFirst (m : Machine ω D) (i : Instance ω D) (goal : Nat → Prop)
    (onGoal onHalt : Instance ω D → Ending) (run : Nat → Instance ω D × Ending) :
    Prop where
  stops : ∀ bound, (run bound).2 ≠ .unfinished →
    ∃ count, m.StopsAt i goal onGoal onHalt count (run bound).1 (run bound).2
  returns : ∀ count j ending, m.StopsAt i goal onGoal onHalt count j ending →
    ∀ bound, count < bound → run bound = (j, ending)

/-- A verdict is given after the steps that meet a goal, and where the machine has halted
before, and nowhere else. -/
structure Heeds (m : Machine ω D) (i : Instance ω D) (goal : Nat → Prop)
    (onGoal onHalt : Instance ω D → Ending)
    (verdict : Instance ω D → Option (Except RunError Unit)) : Prop where
  on_goal : ∀ {count j}, m.Steps count i j → goal count →
    (verdict j).map .ofExcept = some (onGoal j)
  on_halt : ∀ {count j}, m.Steps count i j → ¬ goal count → m.isComplete j = true →
    (verdict j).map .ofExcept = some (onHalt j)
  goes_on : ∀ {count j}, m.Steps count i j → ¬ goal count → m.isComplete j = false →
    verdict j = none

section Loop

variable {m : Machine ω D} {i j : Instance ω D} {count : Nat}
  {verdict : Instance ω D → Option (Except RunError Unit)}
  {goal : Nat → Prop} {onGoal onHalt : Instance ω D → Ending}

/-- A goal is not met up to a number of steps if neither before it nor there. -/
theorem never_iff :
    (∀ earlier ≤ count, ¬ goal earlier) ↔
      (∀ earlier < count, ¬ goal earlier) ∧ ¬ goal count := by
  simp only [← Nat.lt_succ_iff]
  exact Nat.forall_lt_succ_right

theorem meetsAt_iff
    (hsteps : m.Steps count i j)
    (wanted : Instance ω D → Prop) :
    m.MeetsAt i wanted count ↔ wanted j := by
  constructor
  · rintro ⟨k, hk, hwanted⟩
    rwa [hsteps.unique hk]
  · intro hwanted
    exact ⟨j, hsteps, hwanted⟩

theorem drive_of_verdict
    {ending : Ending}
    (hverdict : (verdict i).map .ofExcept = some ending)
    (bound : Nat) :
    m.drive verdict bound i = (i, ending) := by
  obtain ⟨result, hresult, rfl⟩ := Option.map_eq_some_iff.1 hverdict
  unfold drive
  rw [hresult]

/-- Where no verdict is given the goal is not met. -/
theorem Heeds.not_goal
    (hheeds : m.Heeds i goal onGoal onHalt verdict)
    (hsteps : m.Steps count i j)
    (hnone : verdict j = none) :
    ¬ goal count := by
  intro hgoal
  have hverdict := hheeds.on_goal hsteps hgoal
  rw [hnone] at hverdict
  cases hverdict

/-- The first verdict is given where the run may stop. -/
theorem Heeds.stopsAt
    (hheeds : m.Heeds i goal onGoal onHalt verdict)
    (hsteps : m.Steps count i j)
    (hfirst : ∀ earlier < count, ¬ goal earlier)
    {result : Except RunError Unit}
    (hverdict : verdict j = some result) :
    m.StopsAt i goal onGoal onHalt count j (.ofExcept result) := by
  by_cases hgoal : goal count
  · have hending := hheeds.on_goal hsteps hgoal
    rw [hverdict] at hending
    rw [Option.some.inj hending]
    exact .met hsteps hgoal hfirst
  · cases hcomplete : m.isComplete j with
    | true =>
        have hending := hheeds.on_halt hsteps hgoal hcomplete
        rw [hverdict] at hending
        rw [Option.some.inj hending]
        exact .halted hsteps (never_iff.2 ⟨hfirst, hgoal⟩) hcomplete
    | false =>
        have hnone := hheeds.goes_on hsteps hgoal hcomplete
        rw [hnone] at hverdict
        cases hverdict

/-- A loop that is not unfinished has stopped where it may. -/
theorem exists_stopsAt_of_drive
    (hjudges : m.Judges verdict)
    (hheeds : m.Heeds i goal onGoal onHalt verdict)
    {bound : Nat}
    (hended : (m.drive verdict bound i).2 ≠ .unfinished) :
    ∃ count, m.StopsAt i goal onGoal onHalt count (m.drive verdict bound i).1
      (m.drive verdict bound i).2 := by
  obtain ⟨count, k, hsteps, hbefore, hends⟩ := exists_steps_of_drive hjudges bound i
  refine ⟨count, ?_⟩
  have hfirst : ∀ earlier < count, ¬ goal earlier := by
    intro earlier hlt
    obtain ⟨l, hl⟩ := hsteps.exists_earlier (Nat.le_of_lt hlt)
    exact hheeds.not_goal hl (hbefore earlier hlt l hl)
  generalize (m.drive verdict bound i).2 = ending at hends hended ⊢
  generalize (m.drive verdict bound i).1 = l at hends ⊢
  cases hends with
  | decided hverdict =>
      exact hheeds.stopsAt hsteps hfirst hverdict
  | unfinished =>
      exact absurd rfl hended
  | failed hverdict hstep =>
      have hnever := never_iff.2 ⟨hfirst, hheeds.not_goal hsteps hverdict⟩
      exact .broken hsteps hnever (hjudges.goes_on hverdict) hstep

/-- A loop gets to where it may stop, if its bound allows. -/
theorem drive_of_stopsAt
    (hheeds : m.Heeds i goal onGoal onHalt verdict)
    {ending : Ending}
    (hstop : m.StopsAt i goal onGoal onHalt count j ending)
    {bound : Nat}
    (hlt : count < bound) :
    m.drive verdict bound i = (j, ending) := by
  have hbefore : ∀ {k}, m.Steps count i k → (∀ earlier < count, ¬ goal earlier) →
      ∀ earlier < count, ∀ l, m.Steps earlier i l → verdict l = none := by
    intro k hk hfirst earlier hearlier l hl
    exact hheeds.goes_on hl (hfirst earlier hearlier)
      (hl.isComplete_eq_false hk hearlier)
  obtain ⟨spare, rfl⟩ : ∃ spare, bound = count + (spare + 1) :=
    ⟨bound - count - 1, by omega⟩
  cases hstop with
  | met hsteps hgoal hfirst =>
      rw [drive_of_steps hsteps (hbefore hsteps hfirst)]
      exact drive_of_verdict (hheeds.on_goal hsteps hgoal) _
  | halted hsteps hnever hcomplete =>
      obtain ⟨hfirst, hgoal⟩ := never_iff.1 hnever
      rw [drive_of_steps hsteps (hbefore hsteps hfirst)]
      exact drive_of_verdict (hheeds.on_halt hsteps hgoal hcomplete) _
  | broken hsteps hnever hopen hstep =>
      obtain ⟨hfirst, hgoal⟩ := never_iff.1 hnever
      rw [drive_of_steps hsteps (hbefore hsteps hfirst), drive]
      simp only [hheeds.goes_on hsteps hgoal hopen, hstep]

/-- A loop whose verdict heeds a goal stops at the first step at which it may. -/
theorem stopsFirst_drive
    (hjudges : m.Judges verdict)
    (hheeds : m.Heeds i goal onGoal onHalt verdict) :
    m.StopsFirst i goal onGoal onHalt fun bound => m.drive verdict bound i where
  stops := by
    intro bound hended
    exact exists_stopsAt_of_drive hjudges hheeds hended
  returns := by
    intro count j ending hstop bound hlt
    exact drive_of_stopsAt hheeds hstop hlt

end Loop

/-! ### The runs -/

section Runs

variable {m : Machine ω D}

/-- How a run ends that is to meet a goal before the machine halts. -/
def failsOnHalt (onHalt : Instance ω D → RunError) (i : Instance ω D) : Ending :=
  .failed (onHalt i)

theorem stopsFirst_driveTo
    (wanted : Instance ω D → Bool)
    {target : String}
    (hgoal : m.Goal target)
    (i : Instance ω D) :
    m.StopsFirst i (m.MeetsAt i fun j => wanted j = true) (fun _ => .done)
      (failsOnHalt (m.unreachable target))
      fun bound => m.driveTo wanted (m.unreachable target) bound i := by
  refine stopsFirst_drive (m.judges_goal wanted hgoal) ⟨?_, ?_, ?_⟩
  · intro count j hsteps hmet
    simp [(meetsAt_iff hsteps _).1 hmet, Ending.ofExcept]
  · intro count j hsteps hmet hcomplete
    rw [meetsAt_iff hsteps] at hmet
    simp [hmet, hcomplete, Ending.ofExcept, failsOnHalt]
  · intro count j hsteps hmet hopen
    rw [meetsAt_iff hsteps] at hmet
    simp [hmet, hopen]

theorem stopsFirst_runToState
    {text : String}
    {id : StateId}
    (hid : m.resolve text = .ok id)
    (i : Instance ω D) :
    m.StopsFirst i (m.MeetsAt i fun j => j.current = id) (fun _ => .done)
      (failsOnHalt (m.unreachable (m.label id)))
      fun bound => m.runToState bound text i := by
  have h := stopsFirst_driveTo (fun j => decide (j.current = id)) (.state hid) i
  simpa only [runToState, hid, decide_eq_true_eq] using h

/-- The run to a count is the loop that watches the counter, with any bound that the
count allows. -/
theorem runToStepCount_eq_driveTo
    {count : Nat}
    {i : Instance ω D}
    (hle : i.steps ≤ count)
    {bound : Nat}
    (hbound : count - i.steps ≤ bound) :
    ((m.runToStepCount count i).1, Ending.ofExcept (m.runToStepCount count i).2) =
      m.driveTo (fun j => decide (j.steps = count))
        (m.unreachable ("step " ++ toString count)) bound i := by
  unfold runToStepCount
  rw [if_neg (Nat.not_lt.2 hle)]
  exact (driveTo_steps (fun steps => decide (steps = count)) (fun _ _ => rfl)
    (Nat.add_sub_of_le hle) hbound _).symm

theorem stopsFirst_runToStepCount
    {count : Nat}
    {i : Instance ω D}
    (hle : i.steps ≤ count) :
    m.StopsFirst i (m.MeetsAt i fun j => j.steps = count) (fun _ => .done)
      (failsOnHalt (m.unreachable ("step " ++ toString count)))
      fun _ => ((m.runToStepCount count i).1, .ofExcept (m.runToStepCount count i).2) := by
  have h :=
    stopsFirst_driveTo (m := m) (fun j => decide (j.steps = count)) (.count count) i
  simp only [decide_eq_true_eq] at h
  constructor
  · intro bound hended
    rw [runToStepCount_eq_driveTo hle (Nat.le_refl _)] at hended ⊢
    exact h.stops _ hended
  · intro taken j ending hstop bound _
    rw [runToStepCount_eq_driveTo hle (Nat.le_add_right _ (taken + 1))]
    exact h.returns taken j ending hstop _ (by omega)

theorem stopsFirst_runUntil
    (condition : Instance ω D → Bool)
    (i : Instance ω D) :
    m.StopsFirst i (m.MeetsAt i fun j => condition j = true) (fun _ => .done)
      (failsOnHalt (m.unreachable "predicate"))
      fun bound => m.runUntil bound condition i :=
  stopsFirst_driveTo condition .condition i

theorem stopsFirst_runToCompletion
    {onHalt : Instance ω D → Ending}
    {i : Instance ω D}
    (honHalt : ∀ count j, m.Steps count i j → .ofExcept (m.checkQuotas j) = onHalt j) :
    m.StopsFirst i (m.MeetsAt i fun j => m.isComplete j = true) onHalt onHalt
      fun bound => m.runToCompletion bound i := by
  refine stopsFirst_drive m.judges_completion ⟨?_, ?_, ?_⟩
  · intro count j hsteps hmet
    simp [(meetsAt_iff hsteps _).1 hmet, honHalt count j hsteps]
  · intro count j hsteps hmet hcomplete
    exact absurd ((meetsAt_iff hsteps _).2 hcomplete) hmet
  · intro count j hsteps _ hopen
    simp [hopen]

end Runs

/-! ### The run past a state -/

/-- The error of a run that halts before it has passed a state. -/
def unexpected (m : Machine ω D) (id : StateId) (i : Instance ω D) : RunError :=
  .unexpectedTerminal (m.label id) (m.label i.current)

section Past

variable {m : Machine ω D} {id : StateId} {i j k : Instance ω D} {count : Nat}

theorem not_leavesAt_zero
    (m : Machine ω D)
    (id : StateId)
    (i : Instance ω D) :
    ¬ m.LeavesAt i id 0 :=
  False.elim

theorem steps_succ_iff
    (hfirst : m.Steps 1 i k) :
    m.Steps (count + 1) i j ↔ m.Steps count k j := by
  constructor
  · intro h
    rw [Nat.add_comm] at h
    obtain ⟨l, hl, hrest⟩ := h.split
    rwa [hfirst.unique hl]
  · intro h
    rw [Nat.add_comm]
    exact hfirst.trans h

/-- Where the first step leaves another state, what leaves the state is counted from
behind it. -/
theorem leavesAt_succ_iff
    (hfirst : m.Steps 1 i k)
    (helsewhere : i.current ≠ id)
    (count : Nat) :
    m.LeavesAt i id (count + 1) ↔ m.LeavesAt k id count := by
  cases count with
  | zero =>
      refine iff_of_false ?_ (m.not_leavesAt_zero id k)
      rintro ⟨hmet, -⟩
      exact helsewhere ((meetsAt_iff (.zero i) _).1 hmet)
  | succ before =>
      simp only [LeavesAt, MeetsAt, steps_succ_iff hfirst]

theorem never_succ_iff
    (hfirst : m.Steps 1 i k)
    (helsewhere : i.current ≠ id) :
    (∀ earlier ≤ count + 1, ¬ m.LeavesAt i id earlier) ↔
      ∀ earlier ≤ count, ¬ m.LeavesAt k id earlier := by
  simp only [← leavesAt_succ_iff hfirst helsewhere, ← Nat.lt_succ_iff]
  rw [Nat.forall_lt_succ_left]
  exact and_iff_right (m.not_leavesAt_zero id i)

/-- A run that has taken its first step in another state stops where it may from
there. -/
theorem StopsAt.succ
    (hfirst : m.Steps 1 i k)
    (helsewhere : i.current ≠ id)
    {onGoal onHalt : Instance ω D → Ending}
    {ending : Ending}
    (h : m.StopsAt k (m.LeavesAt k id) onGoal onHalt count j ending) :
    m.StopsAt i (m.LeavesAt i id) onGoal onHalt (count + 1) j ending := by
  cases h with
  | met hsteps hgoal hbefore =>
      refine .met ((steps_succ_iff hfirst).2 hsteps)
        ((leavesAt_succ_iff hfirst helsewhere count).2 hgoal) ?_
      rw [Nat.forall_lt_succ_left]
      refine ⟨m.not_leavesAt_zero id i, fun earlier hlt => ?_⟩
      rw [leavesAt_succ_iff hfirst helsewhere]
      exact hbefore earlier hlt
  | halted hsteps hnever hcomplete =>
      exact .halted ((steps_succ_iff hfirst).2 hsteps)
        ((never_succ_iff hfirst helsewhere).2 hnever) hcomplete
  | broken hsteps hnever hopen hstep =>
      exact .broken ((steps_succ_iff hfirst).2 hsteps)
        ((never_succ_iff hfirst helsewhere).2 hnever) hopen hstep

/-- A run past a state that is not unfinished has stopped where it may. -/
theorem exists_stopsAt_of_drivePast
    {bound : Nat}
    (hended : (m.drivePast id bound i).2 ≠ .unfinished) :
    ∃ count, m.StopsAt i (m.LeavesAt i id) (fun _ => .done) (failsOnHalt (m.unexpected id))
      count (m.drivePast id bound i).1 (m.drivePast id bound i).2 := by
  have hnever : ∀ {i}, ∀ earlier ≤ 0, ¬ m.LeavesAt i id earlier := by
    rintro i _ hle
    rw [Nat.le_zero.1 hle]
    exact m.not_leavesAt_zero id i
  fun_induction drivePast m id bound i with
  | case1 bound i hcomplete =>
      exact ⟨0, .halted (.zero i) hnever hcomplete⟩
  | case2 i hopen =>
      exact absurd rfl hended
  | case3 i hopen bound previous j result hstep hpast =>
      have hfirst := Steps.of_step (eq_false_of_ne_true hopen) hstep (.zero j)
      refine ⟨1, .met hfirst ⟨⟨i, .zero i, hpast⟩, j, hfirst⟩ fun earlier hlt => ?_⟩
      exact hnever earlier (Nat.le_of_lt_succ hlt)
  | case4 i hopen bound previous j result hstep hpast ih =>
      have hfirst := Steps.of_step (eq_false_of_ne_true hopen) hstep (.zero j)
      obtain ⟨count, hstop⟩ := ih hended
      exact ⟨count + 1, hstop.succ hfirst hpast⟩
  | case5 i hopen bound j e hstep =>
      exact ⟨0, .broken (.zero i) hnever (eq_false_of_ne_true hopen) hstep⟩

/-- As long as no step leaves the state, the run past it goes wherever whole steps
lead. -/
theorem drivePast_of_steps
    (hsteps : m.Steps count i j)
    (hnever : ∀ earlier ≤ count, ¬ m.LeavesAt i id earlier)
    (spare : Nat) :
    m.drivePast id (count + spare) i = m.drivePast id spare j := by
  induction hsteps with
  | zero i =>
      rw [Nat.zero_add]
  | @succ count i k j source target branch hstep hrest ih =>
      have hfirst : m.Steps 1 i k := .succ hstep (.zero k)
      have hopen := (Steps.zero i).isComplete_eq_false hfirst Nat.zero_lt_one
      have helsewhere : i.current ≠ id := fun hcurrent =>
        hnever 1 (Nat.le_add_left 1 count) ⟨⟨i, .zero i, hcurrent⟩, k, hfirst⟩
      rw [Nat.add_right_comm, drivePast]
      simp only [hopen, hstep, helsewhere, Bool.false_eq_true, if_false]
      exact ih ((never_succ_iff hfirst helsewhere).1 hnever)

/-- A run past a state gets to where it may stop, if its bound allows. -/
theorem drivePast_of_stopsAt
    {ending : Ending}
    (hstop : m.StopsAt i (m.LeavesAt i id) (fun _ => .done) (failsOnHalt (m.unexpected id))
      count j ending)
    {bound : Nat}
    (hlt : count < bound) :
    m.drivePast id bound i = (j, ending) := by
  obtain ⟨spare, rfl⟩ : ∃ spare, bound = count + (spare + 1) :=
    ⟨bound - count - 1, by omega⟩
  cases hstop with
  | met hsteps hleaves hfirst =>
      cases count with
      | zero =>
          exact hleaves.elim
      | succ before =>
          obtain ⟨⟨k, hk, hcurrent⟩, -⟩ := hleaves
          have hopen := hk.isComplete_eq_false hsteps (Nat.lt_succ_self _)
          obtain ⟨result, hstep⟩ := hk.exists_last hsteps
          have hnever : ∀ earlier ≤ before, ¬ m.LeavesAt i id earlier := fun earlier hle =>
            hfirst earlier (Nat.lt_succ_of_le hle)
          rw [Nat.add_assoc, drivePast_of_steps hk hnever, Nat.add_comm 1, drivePast]
          simp [hopen, hstep, hcurrent]
  | halted hsteps hnever hcomplete =>
      rw [drivePast_of_steps hsteps hnever, drivePast]
      simp [hcomplete, failsOnHalt, unexpected]
  | broken hsteps hnever hopen hstep =>
      rw [drivePast_of_steps hsteps hnever, drivePast]
      simp [hopen, hstep]

theorem stopsFirst_runPastState
    {text : String}
    (hid : m.resolve text = .ok id)
    (i : Instance ω D) :
    m.StopsFirst i (m.LeavesAt i id) (fun _ => .done) (failsOnHalt (m.unexpected id))
      fun bound => m.runPastState bound text i := by
  simp only [m.runPastState_of_resolve hid]
  constructor
  · intro bound hended
    exact exists_stopsAt_of_drivePast hended
  · intro count j ending hstop bound hlt
    exact drivePast_of_stopsAt hstop hlt

end Past

/-! ### All runs -/

/-- Every run from an instance stops at the first step at which it may.  Where it breaks
off, the step that failed has left the books as they were. -/
structure Punctual (m : Machine ω D) (i : Instance ω D) : Prop where
  to_state : ∀ text id, m.idOf? text = some id →
    m.StopsFirst i (m.MeetsAt i fun j => j.current = id) (fun _ => .done)
      (failsOnHalt (m.unreachable (m.label id)))
      fun bound => m.runToState bound text i
  to_condition : ∀ condition : Instance ω D → Bool,
    m.StopsFirst i (m.MeetsAt i fun j => condition j = true) (fun _ => .done)
      (failsOnHalt (m.unreachable "predicate"))
      fun bound => m.runUntil bound condition i
  to_count : ∀ count, i.steps ≤ count →
    m.StopsFirst i (m.MeetsAt i fun j => j.steps = count) (fun _ => .done)
      (failsOnHalt (m.unreachable ("step " ++ toString count)))
      fun _ => ((m.runToStepCount count i).1, .ofExcept (m.runToStepCount count i).2)
  past_state : ∀ text id, m.idOf? text = some id →
    m.StopsFirst i (m.LeavesAt i id) (fun _ => .done) (failsOnHalt (m.unexpected id))
      fun bound => m.runPastState bound text i
  to_completion :
    m.StopsFirst i (m.MeetsAt i fun j => m.isComplete j = true) m.audit m.audit
      fun bound => m.runToCompletion bound i
  audited : ∀ count j, m.Steps count i j →
    (m.audit j = .done ↔
      ∀ s quota, j.rules.quotas.get? s = some quota → j.visits[s]? = some quota)
  broken : ∀ count j k e, m.Steps count i j → m.step j = (k, .error e) → m.LeftBy j e k

end Machine

namespace Blueprint

/-- Every run of a reachable instance stops at the first step at which it may. -/
theorem punctual_of_reachable
    {b : Blueprint ω D}
    {m : Machine ω D}
    (hbuild : b.build = .ok m)
    {i : Instance ω D}
    (hi : m.Reachable i) :
    m.Punctual i where
  to_state := by
    intro text id hid
    exact Machine.stopsFirst_runToState ((m.resolve_eq_ok_iff text id).2 hid) i
  to_condition := by
    intro condition
    exact Machine.stopsFirst_runUntil condition i
  to_count := by
    intro count hle
    exact Machine.stopsFirst_runToStepCount hle
  past_state := by
    intro text id hid
    exact Machine.stopsFirst_runPastState ((m.resolve_eq_ok_iff text id).2 hid) i
  to_completion := by
    apply Machine.stopsFirst_runToCompletion
    intro count j hsteps
    exact ofExcept_checkQuotas hbuild (hsteps.reachable hi)
  audited := by
    intro count j hsteps
    exact audit_eq_done_iff hbuild (hsteps.reachable hi)
  broken := by
    intro count j k e _ hstep
    exact (Machine.Advance.of_eq hstep).leftBy (wellFormed_of_build hbuild)

/-- Runs of the small machine with a quota that it does not meet: to the state where it
is, to the next one, past that one, and to the end. -/
theorem punctual_retry :
    ∃ i : Instance Nat Nat,
      retry.build = .ok retryMachine ∧
      retryMachine.Reachable i ∧
      (retryMachine.runToState 10 "Init" i).1.steps = 0 ∧
      (retryMachine.runToState 10 "Check" i).1.steps = 1 ∧
      (retryMachine.runPastState 10 "Check" i).1.steps = 2 ∧
      (retryMachine.runToCompletion 10 i).1.steps = 6 ∧
      retryMachine.mismatches (retryMachine.runToCompletion 10 i).1 =
        [.wrongVisitCount "Init" 5 3] ∧
      retryMachine.Punctual i := by
  have hi : retryMachine.Reachable
      (retryMachine.perform (.requireVisits "Init" 5) (retryMachine.newInstance 0 0)).1 :=
    .perform _ (.start 0 0)
  refine ⟨_, build_retry, hi, ?_, ?_, ?_, ?_, ?_, punctual_of_reachable build_retry hi⟩ <;>
    decide +kernel

end Blueprint
end Flowchart

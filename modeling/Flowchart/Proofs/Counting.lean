import Flowchart.Proofs.Lockstep
import Flowchart.Proofs.Session

/-!
# Runs to a step count

A run to a step count asks whether the machine has halted before each of its steps.  So
a step that succeeds takes a transition and raises the counter by one, and the run ends
within the steps that the counter lacks: at the count, where the machine has halted, or
with a step that fails.

A run that reaches its count has taken whole steps and done nothing else.  A run to a
later count goes through the same instance, so it may as well stop there and be resumed.
The surroundings may move on in between, as long as no handler sees it.
-/

namespace Flowchart
namespace Machine

variable {ω D : Type}

/-- How a run that lacks a number of steps ends after the whole steps that it takes. -/
inductive CountEnds (m : Machine ω D) (target : String) (missing taken : Nat)
    (i : Instance ω D) : Instance ω D → Except RunError Unit → Prop
  | reached
      (hall : taken = missing) :
      CountEnds m target missing taken i i (.ok ())
  | halted
      (hshort : taken < missing)
      (hcomplete : m.isComplete i = true) :
      CountEnds m target missing taken i i (.error (m.unreachable target i))
  | broken {j : Instance ω D} {e : RunError}
      (hshort : taken < missing)
      (hopen : m.isComplete i = false)
      (hstep : m.step i = (j, .error e)) :
      CountEnds m target missing taken i j (.error e)

section Counting

variable {m : Machine ω D} {i j : Instance ω D}

/-- One step more is taken and one step more was missing. -/
theorem CountEnds.succ
    {target : String}
    {missing taken : Nat}
    {result : Except RunError Unit}
    (h : m.CountEnds target missing taken i j result) :
    m.CountEnds target (missing + 1) (taken + 1) i j result := by
  cases h with
  | reached hall =>
      exact .reached (congrArg _ hall)
  | halted hshort hcomplete =>
      exact .halted (Nat.succ_lt_succ hshort) hcomplete
  | broken hshort hopen hstep =>
      exact .broken (Nat.succ_lt_succ hshort) hopen hstep

theorem CountEnds.taken_le
    {target : String}
    {missing taken : Nat}
    {result : Except RunError Unit}
    (h : m.CountEnds target missing taken i j result) :
    taken ≤ missing := by
  cases h with
  | reached hall =>
      exact Nat.le_of_eq hall
  | halted hshort | broken hshort =>
      exact Nat.le_of_lt hshort

/-- A run that succeeds has taken all the steps that were missing. -/
theorem CountEnds.of_ok
    {target : String}
    {missing taken : Nat}
    (h : m.CountEnds target missing taken i j (.ok ())) :
    taken = missing ∧ j = i := by
  generalize hresult : Except.ok () = result at h
  cases h with
  | reached hall =>
      exact ⟨hall, rfl⟩
  | halted | broken =>
      cases hresult

/-- A run takes whole steps while some are missing, and then ends in one of the ways. -/
theorem exists_steps_of_takeSteps
    (m : Machine ω D)
    (target : String)
    (missing : Nat)
    (i : Instance ω D) :
    ∃ taken j, m.Steps taken i j ∧
      m.CountEnds target missing taken j (m.takeSteps target missing i).1
        (m.takeSteps target missing i).2 := by
  induction missing generalizing i with
  | zero =>
      exact ⟨0, i, .zero i, .reached rfl⟩
  | succ missing ih =>
      unfold takeSteps
      cases hcomplete : m.isComplete i with
      | true =>
          exact ⟨0, i, .zero i, .halted (Nat.succ_pos _) hcomplete⟩
      | false =>
          simp only [Bool.false_eq_true, if_false]
          rcases hstep : m.step i with ⟨j, e | result⟩
          · exact ⟨0, i, .zero i, .broken (Nat.succ_pos _) hcomplete hstep⟩
          · obtain ⟨taken, k, hsteps, hends⟩ := ih j
            exact ⟨taken + 1, k, .of_step hcomplete hstep hsteps, hends.succ⟩

/-- A run goes wherever whole steps lead that it lacks. -/
theorem takeSteps_of_steps
    {taken : Nat}
    (h : m.Steps taken i j)
    (target : String)
    (missing : Nat) :
    m.takeSteps target (taken + missing) i = m.takeSteps target missing j := by
  induction h with
  | zero i =>
      rw [Nat.zero_add]
  | @succ taken i j k source next branch hstep hrest ih =>
      have hopen : m.isComplete i = false :=
        (Steps.zero i).isComplete_eq_false (.succ hstep hrest) (Nat.succ_pos _)
      rw [Nat.add_right_comm, takeSteps]
      simp only [hopen, hstep, Bool.false_eq_true, if_false]
      exact ih

/-- Each whole step raises the counter by one. -/
theorem Steps.steps_eq
    {count : Nat}
    (h : m.Steps count i j) :
    j.steps = i.steps + count := by
  induction h with
  | zero i =>
      rfl
  | @succ count i j k source next branch hstep hrest ih =>
      have hopen : m.isComplete i = false :=
        (Steps.zero i).isComplete_eq_false (.succ hstep hrest) (Nat.succ_pos _)
      rw [ih, steps_of_step hopen hstep]
      omega

theorem runToStepCount_of_le
    {count : Nat}
    (hle : i.steps ≤ count) :
    m.runToStepCount count i =
      m.takeSteps ("step " ++ toString count) (count - i.steps) i := by
  rw [runToStepCount, if_neg (Nat.not_lt.2 hle)]

/-- A run that reaches its count has taken the steps that were missing. -/
theorem steps_of_runToStepCount
    {count : Nat}
    (h : m.runToStepCount count i = (j, .ok ())) :
    i.steps ≤ count ∧ m.Steps (count - i.steps) i j := by
  by_cases hle : i.steps ≤ count
  · obtain ⟨taken, k, hsteps, hends⟩ :=
      m.exists_steps_of_takeSteps ("step " ++ toString count) (count - i.steps) i
    rw [← runToStepCount_of_le hle, h] at hends
    obtain ⟨rfl, rfl⟩ := hends.of_ok
    exact ⟨hle, hsteps⟩
  · rw [runToStepCount, if_pos (Nat.lt_of_not_le hle)] at h
    cases h

theorem steps_eq_of_runToStepCount
    {count : Nat}
    (h : m.runToStepCount count i = (j, .ok ())) :
    j.steps = count := by
  obtain ⟨hle, hsteps⟩ := steps_of_runToStepCount h
  rw [hsteps.steps_eq, Nat.add_sub_of_le hle]

/-- A run goes through every count before its own, and may be resumed there. -/
theorem runToStepCount_resume
    {mid count : Nat}
    (hle : mid ≤ count)
    (h : m.runToStepCount mid i = (j, .ok ())) :
    m.runToStepCount count j = m.runToStepCount count i := by
  obtain ⟨hbegun, hsteps⟩ := steps_of_runToStepCount h
  have hmid := steps_eq_of_runToStepCount h
  have hmissing : count - i.steps = mid - i.steps + (count - mid) := by omega
  rw [runToStepCount_of_le (Nat.le_trans (Nat.le_of_eq hmid) hle),
    runToStepCount_of_le (Nat.le_trans hbegun hle), hmissing, takeSteps_of_steps hsteps,
    hmid]

end Counting

/-- What holds of the runs of an instance to step counts.  They end as the loop does that
watches the counter, within the steps that are missing.  A run to a count and from there
to a later one is the run to the later one, whatever that comes to. -/
structure CountsOut (m : Machine ω D) (i : Instance ω D) : Prop where
  ends : ∀ count spare,
    m.countUp count (count - i.steps + spare) i =
      ((m.runToStepCount count i).1, .ofExcept (m.runToStepCount count i).2)
  stops : ∀ count, i.steps ≤ count →
    ∃ taken j, taken ≤ count - i.steps ∧ m.Steps taken i j ∧
      m.CountEnds ("step " ++ toString count) (count - i.steps) taken j
        (m.runToStepCount count i).1 (m.runToStepCount count i).2
  reached : ∀ count j, m.runToStepCount count i = (j, .ok ()) → j.steps = count
  resumes : ∀ mid count j, mid ≤ count → m.runToStepCount mid i = (j, .ok ()) →
    m.runToStepCount count j = m.runToStepCount count i
  resumes_later : ∀ S : ω → ω → Prop, (∀ p h, m.handler? p = some h → h.Respects S) →
    ∀ mid count j j', mid ≤ count → m.runToStepCount mid i = (j, .ok ()) →
      j.Repeats S j' →
      (m.runToStepCount count j').2 = (m.runToStepCount count i).2 ∧
      (m.runToStepCount count i).1.Repeats S (m.runToStepCount count j').1

/-- Every run to a step count ends within the steps that are missing, and it can be split
at any count that it reaches. -/
theorem counts_out
    (m : Machine ω D)
    (i : Instance ω D) :
    m.CountsOut i where
  ends := by
    intro count spare
    exact m.countUp_eq_runToStepCount count spare i
  stops := by
    intro count hle
    obtain ⟨taken, j, hsteps, hends⟩ :=
      m.exists_steps_of_takeSteps ("step " ++ toString count) (count - i.steps) i
    rw [← runToStepCount_of_le hle] at hends
    exact ⟨taken, j, hends.taken_le, hsteps, hends⟩
  reached := by
    intro count j h
    exact steps_eq_of_runToStepCount h
  resumes := by
    intro mid count j hle h
    exact runToStepCount_resume hle h
  resumes_later := by
    intro S hrespects mid count j j' hle h hrepeats
    have hrun := (lockstep_self hrespects).runToStepCount count hrepeats
    rwa [runToStepCount_resume hle h] at hrun

end Machine
end Flowchart

import Flowchart.Instance.Replay
import Flowchart.Instance.Run
import Flowchart.Proofs.Step
import Mathlib.Tactic.SplitIfs

/-!
# The course of a run

A run, and replay with it, takes steps that succeed and then ends: with nothing to
report, with the error of a step that fails, or with an error of its own.  `Course`
says this of two instances, the transitions taken between them and the error that is
reported.  The lemmas behind it go through the loops once.  Later modules go through
the cases of a course and do not unfold a loop again.

The transitions are read off the results of the steps, by functions that follow the
loops.
-/

namespace Flowchart

variable {ω D : Type}

/-- One transition of an instance. -/
structure Transition where
  source : StateId
  branch : Option Bool
  target : StateId
  deriving DecidableEq, Repr

/-- The transition that a step took, if it took one. -/
def StepResult.transitions : StepResult → List Transition
  | advanced source target branch => [⟨source, branch, target⟩]
  | halted _ => []

/-- The error of a run, if it failed. -/
def Ending.error? : Ending → Option RunError
  | failed e => some e
  | done | unfinished => none

namespace Machine

/-! ### The transitions of loops -/

/-- The transition of one step, if it takes one. -/
def stepTransitions (m : Machine ω D) (forced : Option Bool) (i : Instance ω D) :
    List Transition :=
  match (m.advance forced i).2 with
  | .ok result => result.transitions
  | .error _ => []

/-- The transitions of at most `bound` steps, which end where a condition holds or a
step fails. -/
def runTransitions (m : Machine ω D) (stops : Instance ω D → Bool) :
    (bound : Nat) → Instance ω D → List Transition
  | 0, _ => []
  | bound + 1, i =>
      if stops i then []
      else
        m.stepTransitions none i ++
          match m.step i with
          | (j, .ok _) => runTransitions m stops bound j
          | (_, .error _) => []

/-- The transitions of at most `bound` steps, which end behind the one that leaves a
state, where the machine has halted or where a step fails. -/
def pastTransitions (m : Machine ω D) (id : StateId) :
    (bound : Nat) → Instance ω D → List Transition
  | 0, _ => []
  | bound + 1, i =>
      if m.isComplete i then []
      else
        m.stepTransitions none i ++
          match m.step i with
          | (j, .ok _) => if i.current = id then [] else pastTransitions m id bound j
          | (_, .error _) => []

/-- The transition of one replayed record.  A record that does not start where the
instance stands is not tried. -/
def retraceTransitions (m : Machine ω D) (r : Record) (i : Instance ω D) :
    List Transition :=
  if m.label i.current = r.source then m.stepTransitions r.branch i else []

/-- The transitions of a replay. -/
def replayTransitions (m : Machine ω D) :
    List Record → Instance ω D → List Transition
  | [], _ => []
  | r :: rest, i =>
      m.retraceTransitions r i ++
        match m.replayRecord r i with
        | (j, .ok ()) => replayTransitions m rest j
        | (_, .error _) => []

/-! ### Courses -/

/-- What a run can be said to halt before: a state, a number of steps or a condition. -/
inductive Goal (m : Machine ω D) : String → Prop
  | state {text : String} {id : StateId} (hid : m.resolve text = .ok id) :
      Goal m (m.label id)
  | count (count : Nat) :
      Goal m ("step " ++ toString count)
  | condition :
      Goal m "predicate"

/-- The errors that a run reports by itself, without a step that fails. -/
inductive Refuses (m : Machine ω D) (i : Instance ω D) : RunError → Prop
  | unknown {text : String} {e : RunError} (h : m.resolve text = .error e) :
      Refuses m i e
  | passed {count : Nat} (h : count < i.steps) :
      Refuses m i (.stepCountPassed count i.steps)
  | unreachable {target : String} (hgoal : m.Goal target) (h : m.isComplete i = true) :
      Refuses m i (m.unreachable target i)
  | unexpected {text : String} {id : StateId} (hid : m.resolve text = .ok id)
      (h : m.isComplete i = true) :
      Refuses m i (.unexpectedTerminal (m.label id) (m.label i.current))
  | mismatch {e : RunError} (hquotas : m.checkQuotas i = .error e)
      (h : m.isComplete i = true) :
      Refuses m i e
  | diverged (step : Nat) {expected : String} (h : m.label i.current ≠ expected) :
      Refuses m i (.replayDiverged step expected (m.label i.current))

/-- A verdict that is given wherever the machine has halted, and whose errors are those
that a run reports by itself. -/
structure Judges (m : Machine ω D)
    (verdict : Instance ω D → Option (Except RunError Unit)) : Prop where
  goes_on : ∀ {i}, verdict i = none → m.isComplete i = false
  refuses : ∀ {i e}, verdict i = some (.error e) → m.Refuses i e

section Verdicts

variable (m : Machine ω D)

theorem judges_completion :
    m.Judges fun i => if m.isComplete i then some (m.checkQuotas i) else none where
  goes_on := by
    intro i hnone
    split_ifs at hnone with hcomplete
    exact eq_false_of_ne_true hcomplete
  refuses := by
    intro i e he
    split_ifs at he with hcomplete
    exact .mismatch (Option.some.inj he) hcomplete

theorem judges_goal
    (goal : Instance ω D → Bool)
    {target : String}
    (hgoal : m.Goal target) :
    m.Judges fun i =>
      if goal i then some (.ok ())
      else if m.isComplete i then some (.error (m.unreachable target i))
      else none where
  goes_on := by
    intro i hnone
    split_ifs at hnone with hmet hcomplete
    exact eq_false_of_ne_true hcomplete
  refuses := by
    intro i e he
    split_ifs at he with hmet hcomplete
    · cases he
    · cases he
      exact .unreachable hgoal hcomplete

end Verdicts

/-- Steps that succeed, with their transitions, and what is reported in the end. -/
inductive Course (m : Machine ω D) :
    Instance ω D → List Transition → Option RunError → Instance ω D → Prop
  | stay (i : Instance ω D) :
      Course m i [] none i
  | refused {i : Instance ω D} {e : RunError} (h : m.Refuses i e) :
      Course m i [] (some e) i
  | failed {i j : Instance ω D} {forced : Option Bool} {e : RunError}
      (h : m.advance forced i = (j, .error e)) :
      Course m i [] (some e) j
  | step {i j k : Instance ω D} {forced : Option Bool} {result : StepResult}
      {rest : List Transition} {e : Option RunError}
      (h : m.advance forced i = (j, .ok result))
      (hrest : Course m j rest e k) :
      Course m i (result.transitions ++ rest) e k

namespace Course

variable {m : Machine ω D}

/-- A course goes on where one without an error ends. -/
theorem append
    {i j k : Instance ω D}
    {first second : List Transition}
    {e : Option RunError}
    (hfirst : m.Course i first none j)
    (hsecond : m.Course j second e k) :
    m.Course i (first ++ second) e k := by
  generalize hnone : (none : Option RunError) = e₀ at hfirst
  induction hfirst with
  | stay i =>
      exact hsecond
  | refused h =>
      cases hnone
  | failed h =>
      cases hnone
  | step h _ ih =>
      rw [List.append_assoc]
      exact .step h (ih hsecond hnone)

end Course

section Loops

variable (m : Machine ω D)

/-- One step is a course. -/
theorem course_advance
    (forced : Option Bool)
    (i : Instance ω D) :
    m.Course i (m.stepTransitions forced i) (errorOf (m.advance forced i).2)
      (m.advance forced i).1 := by
  unfold stepTransitions
  rcases hstep : m.advance forced i with ⟨j, result | result⟩
  · exact .failed hstep
  · simpa [errorOf] using Course.step hstep (.stay j)

/-- A run is a course if its errors are its own and if it stops where it says. -/
theorem course_drive
    {verdict : Instance ω D → Option (Except RunError Unit)}
    (hjudges : m.Judges verdict)
    {stops : Instance ω D → Bool}
    (hstops : ∀ i, stops i = (verdict i).isSome)
    (bound : Nat)
    (i : Instance ω D) :
    m.Course i (m.runTransitions stops bound i) (m.drive verdict bound i).2.error?
      (m.drive verdict bound i).1 := by
  have hend : ∀ i result, verdict i = some result →
      m.Course i [] (Ending.ofExcept result).error? i := by
    intro i result hverdict
    cases result with
    | ok _ => exact .stay i
    | error e => exact .refused (hjudges.refuses hverdict)
  induction bound generalizing i with
  | zero =>
      unfold drive runTransitions
      cases hverdict : verdict i with
      | some result => exact hend i result hverdict
      | none => exact .stay i
  | succ bound ih =>
      unfold drive runTransitions
      cases hverdict : verdict i with
      | some result =>
          simpa [hstops, hverdict] using hend i result hverdict
      | none =>
          simp only [hstops, hverdict, Option.isSome_none, Bool.false_eq_true, if_false,
            Machine.step, stepTransitions]
          rcases hstep : m.advance none i with ⟨j, result | result⟩
          · exact .failed hstep
          · exact .step hstep (ih j)

/-- A run that fails where the machine halts before its goal is a course. -/
theorem course_driveTo
    (goal : Instance ω D → Bool)
    {target : String}
    (hgoal : m.Goal target)
    (bound : Nat)
    (i : Instance ω D) :
    m.Course i (m.runTransitions (fun i => goal i || m.isComplete i) bound i)
      (m.driveTo goal (m.unreachable target) bound i).2.error?
      (m.driveTo goal (m.unreachable target) bound i).1 := by
  refine m.course_drive (m.judges_goal goal hgoal) ?_ bound i
  intro i
  cases goal i <;> cases m.isComplete i <;> simp

theorem course_runToCompletion
    (bound : Nat)
    (i : Instance ω D) :
    m.Course i (m.runTransitions m.isComplete bound i)
      (m.runToCompletion bound i).2.error? (m.runToCompletion bound i).1 := by
  refine m.course_drive m.judges_completion ?_ bound i
  intro i
  cases m.isComplete i <;> simp

theorem stepTransitions_of_step
    {i j : Instance ω D}
    {result : StepResult}
    (h : m.step i = (j, .ok result)) :
    m.stepTransitions none i = result.transitions := by
  rw [stepTransitions, ← Machine.step, h]

theorem stepTransitions_of_error
    {i j : Instance ω D}
    {e : RunError}
    (h : m.step i = (j, .error e)) :
    m.stepTransitions none i = [] := by
  rw [stepTransitions, ← Machine.step, h]

theorem course_drivePast
    {state : String}
    {id : StateId}
    (hid : m.resolve state = .ok id)
    (bound : Nat)
    (i : Instance ω D) :
    m.Course i (m.pastTransitions id bound i) (m.drivePast id bound i).2.error?
      (m.drivePast id bound i).1 := by
  fun_induction drivePast m id bound i with
  | case1 bound i hcomplete =>
      have hnone : m.pastTransitions id bound i = [] := by
        cases bound <;> simp [pastTransitions, hcomplete]
      rw [hnone]
      exact .refused (.unexpected hid hcomplete)
  | case2 i hopen =>
      exact .stay i
  | case3 i hopen bound previous j result hstep hpast =>
      have hcurrent : i.current = id := hpast
      have htaken := m.stepTransitions_of_step hstep
      have hcourse := Course.step hstep (.stay j)
      simpa [pastTransitions, hopen, hcurrent, hstep, htaken, Ending.error?] using hcourse
  | case4 i hopen bound previous j result hstep hpast ih =>
      have hcurrent : i.current ≠ id := hpast
      have htaken := m.stepTransitions_of_step hstep
      have hcourse := Course.step hstep ih
      simpa [pastTransitions, hopen, hcurrent, hstep, htaken] using hcourse
  | case5 i hopen bound j e hstep =>
      have htaken := m.stepTransitions_of_error hstep
      have hcourse := Course.failed hstep
      simpa [pastTransitions, hopen, hstep, htaken, Ending.error?] using hcourse

theorem runPastState_of_resolve
    {state : String}
    {id : StateId}
    (hid : m.resolve state = .ok id)
    (bound : Nat)
    (i : Instance ω D) :
    m.runPastState bound state i = m.drivePast id bound i := by
  simp only [runPastState, hid]

theorem course_takeSteps
    {target : String}
    (hgoal : m.Goal target)
    (count : Nat)
    (i : Instance ω D) :
    m.Course i (m.runTransitions m.isComplete count i)
      (errorOf (m.takeSteps target count i).2) (m.takeSteps target count i).1 := by
  induction count generalizing i with
  | zero =>
      exact .stay i
  | succ count ih =>
      unfold takeSteps runTransitions
      split_ifs with hcomplete
      · exact .refused (.unreachable hgoal hcomplete)
      · simp only [Machine.step, stepTransitions]
        rcases hstep : m.advance none i with ⟨j, result | result⟩
        · exact .failed hstep
        · exact .step hstep (ih j)

/-- The counter may be passed already, and then no step is left to take. -/
theorem course_runToStepCount
    (count : Nat)
    (i : Instance ω D) :
    m.Course i (m.runTransitions m.isComplete (count - i.steps) i)
      (errorOf (m.runToStepCount count i).2) (m.runToStepCount count i).1 := by
  unfold runToStepCount
  split_ifs with hpassed
  · have hnone : count - i.steps = 0 := by omega
    rw [hnone]
    exact .refused (.passed hpassed)
  · exact m.course_takeSteps (.count count) _ i

/-- A step that succeeds lands where the instance then stands. -/
theorem Advance.landing_eq
    {m : Machine ω D}
    {forced : Option Bool}
    {i j : Instance ω D}
    {result : StepResult}
    (h : m.Advance forced i j (.ok result)) :
    result.landing = j.current := by
  rcases h.halts_or_commits with ⟨-, -, rfl, rfl⟩ | ⟨_, _, _, _, -, -, -, rfl, rfl⟩ <;> rfl

theorem course_replayRecord
    (r : Record)
    (i : Instance ω D) :
    m.Course i (m.retraceTransitions r i) (errorOf (m.replayRecord r i).2)
      (m.replayRecord r i).1 := by
  unfold retraceTransitions replayRecord
  by_cases hsource : m.label i.current = r.source
  · simp only [hsource, ne_eq, not_true, if_false, if_true, stepTransitions]
    rcases hstep : m.advance r.branch i with ⟨j, result | result⟩
    · exact .failed hstep
    · simp only [(Advance.of_eq hstep).landing_eq]
      by_cases htarget : m.label j.current = r.target
      · simpa [htarget, errorOf] using Course.step hstep (.stay j)
      · simpa [htarget, errorOf] using
          Course.step hstep (.refused (.diverged r.step htarget))
  · simp only [hsource, ne_eq, not_false_iff, if_true, if_false]
    exact .refused (.diverged r.step hsource)

theorem course_replayRecords
    (records : List Record)
    (i : Instance ω D) :
    m.Course i (m.replayTransitions records i) (errorOf (m.replayRecords records i).2)
      (m.replayRecords records i).1 := by
  induction records generalizing i with
  | nil =>
      exact .stay i
  | cons r rest ih =>
      have hrecord := m.course_replayRecord r i
      unfold replayRecords replayTransitions
      rcases hresult : m.replayRecord r i with ⟨j, result | result⟩
      · rw [hresult] at hrecord
        simpa using hrecord
      · rw [hresult] at hrecord
        exact hrecord.append (ih j)

end Loops

end Machine
end Flowchart

import Flowchart.Proofs.Build
import Flowchart.Proofs.Failure

/-!
# Where failed runs stop

Every error of a step comes before the transition is entered in the books.  So a step
that fails leaves the books as they were, and the data too, unless an action was run
and failed.

A run takes whole steps until it ends.  If it fails, the steps before count in full,
and what is left is the instance that they lead to, after the failure of one more step
or after an error of the run itself, which touches nothing.
-/

namespace Flowchart

variable {ω D : Type}

/-- Two instances that differ in their surroundings and their data at most. -/
structure Instance.SameBooks (i j : Instance ω D) : Prop where
  current_eq : i.current = j.current
  steps_eq : i.steps = j.steps
  visits_eq : i.visits = j.visits
  log_eq : i.log = j.log
  rules_eq : i.rules = j.rules
  run_eq : i.run = j.run

theorem Instance.sameBooks_withEffect
    (i : Instance ω D)
    (w : ω)
    (d : D) :
    (i.withEffect w d).SameBooks i := by
  constructor <;> rfl

/-- The operations that take steps until a goal is met. -/
def Operation.Runs : Operation ω D → Prop
  | runToCompletion _ | runToState _ _ | runToStepCount _ | runPastState _ _
  | runUntil _ _ => True
  | _ => False

theorem Ending.eq_failed
    {ending : Ending}
    {e : RunError}
    (h : ending.error? = some e) :
    ending = .failed e := by
  cases ending with
  | failed _ => exact congrArg _ (Option.some.inj h)
  | done | unfinished => cases h

theorem eq_error_of_errorOf
    {α : Type}
    {result : Except RunError α}
    {e : RunError}
    (h : errorOf result = some e) :
    result = .error e := by
  cases result with
  | error _ => exact congrArg _ (Option.some.inj h)
  | ok _ => cases h

namespace Machine

/-- What is left of an instance when an error is reported there.  Only an action that
was run and failed leaves other data behind, and an error that no handler answered
leaves the surroundings alone as well. -/
structure LeftBy (m : Machine ω D) (i : Instance ω D) (e : RunError)
    (j : Instance ω D) : Prop where
  books : j.SameBooks i
  data_eq : ¬ m.ActionFailed i (some e) → j.data = i.data
  action : m.ActionFailed i (some e) → ∃ run failure,
    m.handler? i.current = some (.action run) ∧
    run i.surroundings i.data = (j.surroundings, j.data, .error failure) ∧
    e = m.failed i failure
  untouched : (∀ state failure, e ≠ .handlerFailed state failure) → j = i

/-- A number of steps, each of which takes a transition. -/
inductive Steps (m : Machine ω D) : Nat → Instance ω D → Instance ω D → Prop
  | zero (i : Instance ω D) :
      Steps m 0 i i
  | succ {count : Nat} {i j k : Instance ω D} {source target : StateId}
      {branch : Option Bool}
      (h : m.step i = (j, .ok (.advanced source target branch)))
      (hrest : Steps m count j k) :
      Steps m (count + 1) i k

section Failed

variable {m : Machine ω D} {i j : Instance ω D} {e : RunError}

/-- An error that no handler answered leaves everything as it is. -/
theorem leftBy_self
    (h : ∀ state failure, e ≠ .handlerFailed state failure) :
    m.LeftBy i e i where
  books := by constructor <;> rfl
  data_eq := fun _ => rfl
  action := by
    intro hfailed
    cases e with
    | handlerFailed state failure => exact absurd rfl (h state failure)
    | _ => exact hfailed.elim
  untouched := fun _ => rfl

/-- What a run refuses is not the failure of a handler. -/
theorem Refuses.ne_handlerFailed
    (h : m.Refuses i e) :
    ∀ state failure, e ≠ .handlerFailed state failure := by
  rintro state failure rfl
  cases h with
  | unknown hunknown => cases resolve_error hunknown
  | mismatch hquotas => cases checkQuotas_error hquotas

/-- An action that was run and failed leaves what it did to the data. -/
theorem leftBy_of_runAction
    (hm : m.WellFormed)
    {next : StateId}
    (hrow : m.row? i.current = some (.action next))
    {w : ω}
    {d : D}
    (hrun : m.runAction i = (i.withEffect w d, .error e)) :
    m.LeftBy i e (i.withEffect w d) := by
  obtain ⟨handler, hh, hkind⟩ := hm.exists_handler hrow (by simp)
  cases handler with
  | decision test =>
      cases hkind
  | action run =>
      rw [m.runAction_of_handler hh] at hrun
      obtain ⟨heffect, hresult⟩ := Prod.mk.inj hrun
      have hw : (run i.surroundings i.data).1 = w := congrArg Instance.surroundings heffect
      have hd : (run i.surroundings i.data).2.1 = d := congrArg Instance.data heffect
      cases hanswer : (run i.surroundings i.data).2.2 with
      | ok _ =>
          simp [Handler.runAction, hanswer] at hresult
      | error failure =>
          have he : e = m.failed i failure := by
            simpa [Handler.runAction, hanswer] using hresult.symm
          have hfailed : m.ActionFailed i (some e) := by
            rw [he]
            simp [ActionFailed, failed, kind?, hrow, Row.kind]
          exact {
            books := i.sameBooks_withEffect w d
            data_eq := fun hok => absurd hfailed hok
            action := fun _ =>
              ⟨run, failure, hh, Prod.ext hw (Prod.ext hd hanswer), he⟩
            untouched := fun hne => absurd he (hne _ _) }

/-- A step that fails leaves the books as they were. -/
theorem Advance.leftBy
    (hm : m.WellFormed)
    {forced : Option Bool}
    (h : m.Advance forced i j (.error e)) :
    m.LeftBy i e j := by
  generalize hanswer : Except.error e = answer at h
  cases h with
  | stopped hrow =>
      apply leftBy_self
      rintro state failure rfl
      unfold terminalStep at hanswer
      split at hanswer <;> cases hanswer
  | capped hrow hkind hcap =>
      cases hanswer
      obtain ⟨cap, visits, rfl⟩ := checkCap_error hcap
      exact leftBy_self (by simp)
  | actionFailed hrow hcap hrun =>
      cases hanswer
      exact leftBy_of_runAction hm hrow hrun
  | @decisionFailed onTrue onFalse e w hrow hcap hask =>
      cases hanswer
      obtain ⟨failure, rfl⟩ := branchOutcome_error hask
      have hdecision : ¬ m.ActionFailed i (some (m.failed i failure)) := by
        simp [ActionFailed, failed, kind?, hrow, Row.kind]
      exact {
        books := i.sameBooks_withEffect w i.data
        data_eq := fun _ => rfl
        action := fun hfailed => absurd hfailed hdecision
        untouched := fun hne => absurd rfl (hne _ failure) }
  | acted | decided =>
      cases hanswer

/-- A step that finds the machine halted does nothing. -/
theorem Advance.eq_of_halted
    {forced : Option Bool}
    {state : StateId}
    (h : m.Advance forced i j (.ok (.halted state))) :
    j = i := by
  rcases h.halts_or_commits with ⟨-, -, rfl, -⟩ | ⟨_, _, _, _, -, -, -, -, hresult⟩
  · rfl
  · cases hresult

end Failed

/-! ### Whole steps -/

section Steps

variable {m : Machine ω D} {i j k : Instance ω D}

/-- Where the machine has not halted, a step that succeeds takes a transition. -/
theorem Steps.of_step
    (hopen : m.isComplete i = false)
    {result : StepResult}
    (h : m.step i = (j, .ok result))
    {count : Nat}
    (hrest : m.Steps count j k) :
    m.Steps (count + 1) i k := by
  rcases (Advance.of_eq h).halts_or_commits with
    ⟨hcomplete, -⟩ | ⟨_, _, _, _, -, -, -, -, rfl⟩
  · rw [hopen] at hcomplete
    cases hcomplete
  · exact .succ h hrest

theorem Steps.trans
    {first second : Nat}
    (hfirst : m.Steps first i j)
    (hsecond : m.Steps second j k) :
    m.Steps (first + second) i k := by
  induction hfirst with
  | zero i =>
      simpa using hsecond
  | succ h _ ih =>
      rw [Nat.add_right_comm]
      exact .succ h (ih hsecond)

/-- A number of whole steps leads to one instance at most. -/
theorem Steps.unique
    {count : Nat}
    (hj : m.Steps count i j)
    (hk : m.Steps count i k) :
    j = k := by
  induction hj with
  | zero i =>
      cases hk
      rfl
  | succ h _ ih =>
      cases hk with
      | succ h' hrest =>
          cases h.symm.trans h'
          exact ih hrest

theorem Steps.split
    {first second : Nat}
    (h : m.Steps (first + second) i k) :
    ∃ j, m.Steps first i j ∧ m.Steps second j k := by
  induction first generalizing i with
  | zero =>
      exact ⟨i, .zero i, by simpa using h⟩
  | succ first ih =>
      rw [Nat.add_right_comm] at h
      cases h with
      | succ hstep hrest =>
          obtain ⟨j, hfirst, hsecond⟩ := ih hrest
          exact ⟨j, .succ hstep hfirst, hsecond⟩

theorem Steps.exists_earlier
    {count earlier : Nat}
    (h : m.Steps count i k)
    (hle : earlier ≤ count) :
    ∃ j, m.Steps earlier i j := by
  obtain ⟨rest, rfl⟩ := Nat.exists_eq_add_of_le hle
  obtain ⟨j, hj, -⟩ := h.split
  exact ⟨j, hj⟩

theorem Steps.exists_last
    {count : Nat}
    (hj : m.Steps count i j)
    (hk : m.Steps (count + 1) i k) :
    ∃ result, m.step j = (k, .ok result) := by
  obtain ⟨j', hj', hlast⟩ := hk.split
  cases hj.unique hj'
  cases hlast with
  | succ hstep hrest =>
      cases hrest
      exact ⟨_, hstep⟩

/-- Steps go on from a machine that has not halted. -/
theorem Steps.isComplete_eq_false
    {earlier count : Nat}
    (hj : m.Steps earlier i j)
    (hk : m.Steps count i k)
    (hlt : earlier < count) :
    m.isComplete j = false := by
  obtain ⟨rest, rfl⟩ : ∃ rest, count = earlier + (rest + 1) :=
    ⟨count - earlier - 1, by omega⟩
  obtain ⟨j', hj', hrest⟩ := hk.split
  cases hj.unique hj'
  cases hrest with
  | succ hstep _ =>
      rcases (Advance.of_eq hstep).halts_or_commits with
        ⟨-, -, -, hresult⟩ | ⟨_, _, _, _, hopen, -⟩
      · cases hresult
      · exact hopen

theorem Steps.reachable
    {count : Nat}
    (h : m.Steps count i j)
    (hi : m.Reachable i) :
    m.Reachable j := by
  induction h with
  | zero i =>
      exact hi
  | succ hstep _ ih =>
      have hnext := hi.advance none
      rw [Machine.step] at hstep
      rw [hstep] at hnext
      exact ih hnext

end Steps

/-! ### Runs that break off -/

/-- Whole steps lead to an instance, and an error is reported there. -/
def BreaksOff (m : Machine ω D) (i : Instance ω D) (e : RunError)
    (j : Instance ω D) : Prop :=
  ∃ count k, m.Steps count i k ∧ m.LeftBy k e j

/-- How a run ends where its whole steps have led. -/
inductive RunEnds (m : Machine ω D)
    (verdict : Instance ω D → Option (Except RunError Unit)) (i : Instance ω D) :
    Instance ω D → Ending → Prop
  | decided {result : Except RunError Unit}
      (h : verdict i = some result) :
      RunEnds m verdict i i (.ofExcept result)
  | unfinished
      (h : verdict i = none) :
      RunEnds m verdict i i .unfinished
  | failed {j : Instance ω D} {e : RunError}
      (h : verdict i = none)
      (hstep : m.step i = (j, .error e)) :
      RunEnds m verdict i j (.failed e)

section Runs

variable {m : Machine ω D} {i j : Instance ω D} {e : RunError}

theorem BreaksOff.of_refuses
    (h : m.Refuses i e) :
    m.BreaksOff i e i :=
  ⟨0, i, .zero i, leftBy_self h.ne_handlerFailed⟩

theorem BreaksOff.of_step
    (hm : m.WellFormed)
    (h : m.step i = (j, .error e)) :
    m.BreaksOff i e j :=
  ⟨0, i, .zero i, (Advance.of_eq h).leftBy hm⟩

theorem BreaksOff.of_steps
    {count : Nat}
    {k : Instance ω D}
    (hsteps : m.Steps count i j)
    (h : m.BreaksOff j e k) :
    m.BreaksOff i e k := by
  obtain ⟨more, l, hmore, hleft⟩ := h
  exact ⟨count + more, l, hsteps.trans hmore, hleft⟩

/-- A run takes whole steps while there is no verdict, and then ends by its verdict, at
its bound or by a step that fails. -/
theorem exists_steps_of_drive
    {verdict : Instance ω D → Option (Except RunError Unit)}
    (hjudges : m.Judges verdict)
    (bound : Nat)
    (i : Instance ω D) :
    ∃ count k, m.Steps count i k ∧
      (∀ earlier < count, ∀ j, m.Steps earlier i j → verdict j = none) ∧
      m.RunEnds verdict k (m.drive verdict bound i).1 (m.drive verdict bound i).2 := by
  induction bound generalizing i with
  | zero =>
      refine ⟨0, i, .zero i, by simp, ?_⟩
      unfold drive
      cases hverdict : verdict i with
      | some result => exact .decided hverdict
      | none => exact .unfinished hverdict
  | succ bound ih =>
      unfold drive
      cases hverdict : verdict i with
      | some result =>
          exact ⟨0, i, .zero i, by simp, .decided hverdict⟩
      | none =>
          rcases hstep : m.step i with ⟨j, e | result⟩
          · exact ⟨0, i, .zero i, by simp, .failed hverdict hstep⟩
          · obtain ⟨count, k, hsteps, hbefore, hends⟩ := ih j
            refine ⟨count + 1, k, .of_step (hjudges.goes_on hverdict) hstep hsteps, ?_,
              hends⟩
            intro earlier hearlier l hl
            cases hl with
            | zero =>
                exact hverdict
            | succ h hrest =>
                cases hstep.symm.trans h
                exact hbefore _ (by omega) _ hrest

/-- Without a verdict a run goes wherever whole steps lead. -/
theorem drive_of_steps
    {verdict : Instance ω D → Option (Except RunError Unit)}
    {count : Nat}
    (hsteps : m.Steps count i j)
    (hbefore : ∀ earlier < count, ∀ k, m.Steps earlier i k → verdict k = none)
    (spare : Nat) :
    m.drive verdict (count + spare) i = m.drive verdict spare j := by
  induction hsteps with
  | zero i =>
      rw [Nat.zero_add]
  | @succ count i j k source target branch h _ ih =>
      have hnone := hbefore 0 (by omega) i (.zero i)
      rw [Nat.add_right_comm, drive]
      simp only [hnone, h]
      apply ih
      intro earlier hlt l hl
      exact hbefore (earlier + 1) (by omega) l (.succ h hl)

/-- A run that fails breaks off, by its verdict or by its last step. -/
theorem breaksOff_of_drive
    (hm : m.WellFormed)
    {verdict : Instance ω D → Option (Except RunError Unit)}
    (hjudges : m.Judges verdict)
    {bound : Nat}
    (h : m.drive verdict bound i = (j, .failed e)) :
    m.BreaksOff i e j := by
  obtain ⟨count, k, hsteps, -, hends⟩ := exists_steps_of_drive hjudges bound i
  rw [h] at hends
  generalize hending : Ending.failed e = ending at hends
  apply BreaksOff.of_steps hsteps
  cases hends with
  | @decided result hverdict =>
      cases result with
      | ok _ =>
          cases hending
      | error _ =>
          cases hending
          exact .of_refuses (hjudges.refuses hverdict)
  | unfinished hverdict =>
      cases hending
  | failed hverdict hstep =>
      cases hending
      exact .of_step hm hstep

theorem breaksOff_of_drivePast
    (hm : m.WellFormed)
    {state : String}
    {id : StateId}
    (hid : m.resolve state = .ok id)
    {bound : Nat}
    (h : m.drivePast id bound i = (j, .failed e)) :
    m.BreaksOff i e j := by
  fun_induction drivePast m id bound i with
  | case1 bound i hcomplete =>
      cases h
      exact .of_refuses (.unexpected hid hcomplete)
  | case2 i hopen =>
      cases h
  | case3 i hopen bound previous k result hstep hpast =>
      cases h
  | case4 i hopen bound previous k result hstep hpast ih =>
      exact .of_steps (.of_step (eq_false_of_ne_true hopen) hstep (.zero k)) (ih h)
  | case5 i hopen bound k e hstep =>
      cases h
      exact .of_step hm hstep

theorem breaksOff_of_takeSteps
    (hm : m.WellFormed)
    {target : String}
    (hgoal : m.Goal target)
    {count : Nat}
    (h : m.takeSteps target count i = (j, .error e)) :
    m.BreaksOff i e j := by
  induction count generalizing i with
  | zero =>
      cases h
  | succ count ih =>
      unfold takeSteps at h
      split_ifs at h with hcomplete
      · cases h
        exact .of_refuses (.unreachable hgoal hcomplete)
      · have hopen := eq_false_of_ne_true hcomplete
        rcases hstep : m.step i with ⟨k, _ | result⟩
        · simp only [hstep] at h
          cases h
          exact .of_step hm hstep
        · simp only [hstep] at h
          exact .of_steps (.of_step hopen hstep (.zero k)) (ih h)

theorem breaksOff_of_runToStepCount
    (hm : m.WellFormed)
    {count : Nat}
    (h : m.runToStepCount count i = (j, .error e)) :
    m.BreaksOff i e j := by
  unfold runToStepCount at h
  split_ifs at h with hpassed
  · cases h
    exact .of_refuses (.passed hpassed)
  · exact breaksOff_of_takeSteps hm (.count count) h

/-- A run that fails breaks off, whatever its goal. -/
theorem breaksOff_of_runs
    (hm : m.WellFormed)
    {op : Operation ω D}
    (hop : op.Runs)
    (h : (m.perform op i).2 = some e) :
    m.BreaksOff i e (m.perform op i).1 := by
  cases op with
  | runToCompletion bound =>
      exact breaksOff_of_drive hm m.judges_completion (Prod.ext rfl (Ending.eq_failed h))
  | runToState bound state =>
      have h := Ending.eq_failed h
      simp only [perform, runToState] at h ⊢
      cases hid : m.resolve state with
      | ok id =>
          simp only [hid] at h ⊢
          exact breaksOff_of_drive hm (m.judges_goal _ (.state hid)) (Prod.ext rfl h)
      | error unknown =>
          simp only [hid] at h ⊢
          cases h
          exact .of_refuses (.unknown hid)
  | runToStepCount count =>
      exact breaksOff_of_runToStepCount hm (Prod.ext rfl (eq_error_of_errorOf h))
  | runPastState bound state =>
      have h := Ending.eq_failed h
      simp only [perform, runPastState] at h ⊢
      cases hid : m.resolve state with
      | ok id =>
          simp only [hid] at h ⊢
          exact breaksOff_of_drivePast hm hid (Prod.ext rfl h)
      | error unknown =>
          simp only [hid] at h ⊢
          cases h
          exact .of_refuses (.unknown hid)
  | runUntil bound condition =>
      exact breaksOff_of_drive hm (m.judges_goal condition .condition)
        (Prod.ext rfl (Ending.eq_failed h))
  | _ =>
      exact hop.elim

end Runs

/-- What holds of every failure that is reported at an instance. -/
structure FailsCleanly (m : Machine ω D) (i : Instance ω D) : Prop where
  step_failed : ∀ forced j e, m.advance forced i = (j, .error e) → m.LeftBy i e j
  step_halted : ∀ forced j state, m.advance forced i = (j, .ok (.halted state)) → j = i
  run_failed : ∀ op e, op.Runs → (m.perform op i).2 = some e →
    ∃ count k, m.Steps count i k ∧ m.LeftBy k e (m.perform op i).1
  unknown : ∀ bound text, m.idOf? text = none →
    m.runToState bound text i = (i, .failed (.unknownState m.name text)) ∧
    m.runPastState bound text i = (i, .failed (.unknownState m.name text))
  passed : ∀ count, count < i.steps →
    m.runToStepCount count i = (i, .error (.stepCountPassed count i.steps))

/-- In a built machine a step that fails, or finds the machine halted, changes no book,
and a run that fails stops after whole steps. -/
theorem failsCleanly_of_build
    {b : Blueprint ω D}
    {m : Machine ω D}
    (hbuild : b.build = .ok m)
    (i : Instance ω D) :
    m.FailsCleanly i := by
  have hm := Blueprint.wellFormed_of_build hbuild
  exact {
    step_failed := fun _ _ _ h => (Advance.of_eq h).leftBy hm
    step_halted := fun _ _ _ h => (Advance.of_eq h).eq_of_halted
    run_failed := fun _ _ hop h => breaksOff_of_runs hm hop h
    unknown := by
      intro bound text hunknown
      have hresolve : m.resolve text = .error (.unknownState m.name text) := by
        simp [resolve, hunknown]
      simp [runToState, runPastState, hresolve]
    passed := by
      intro count hpassed
      simp [runToStepCount, hpassed] }

/-- A run of the small machine that its cap stops after four whole steps. -/
theorem failsCleanly_retry :
    ∃ i : Instance Nat Nat,
      Blueprint.retry.build = .ok Blueprint.retryMachine ∧
      i.rules.caps.get? 0 = some 2 ∧
      (Blueprint.retryMachine.perform (.runToCompletion 10) i).2.isSome = true ∧
      (Blueprint.retryMachine.perform (.runToCompletion 10) i).1.visits = [2, 2, 0] ∧
      (Blueprint.retryMachine.perform (.runToCompletion 10) i).1.data = 2 ∧
      Blueprint.retryMachine.FailsCleanly i := by
  refine ⟨(Blueprint.retryMachine.perform (.capVisits "Init" 2)
    (Blueprint.retryMachine.newInstance 0 0)).1, Blueprint.build_retry, ?_⟩
  exact ⟨by decide +kernel, by decide +kernel, by decide +kernel, by decide +kernel,
    failsCleanly_of_build Blueprint.build_retry _⟩

end Machine
end Flowchart

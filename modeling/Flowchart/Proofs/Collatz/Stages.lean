import Flowchart.Collatz.Stages
import Flowchart.Proofs.Build
import Flowchart.Proofs.Observation

/-!
# The chain search, stage by stage

`tick` is the search without a machine: from a stage and the data to the next stage and
the data there.  The machine of the search does as `tick` says, so a way through the
stages is a number of its steps.
-/

namespace Flowchart

variable {ω D : Type}

namespace Machine

/-- A step where an action succeeds, without visit rules. -/
theorem step_of_action
    (m : Machine ω D)
    {i : Instance ω D}
    {next : StateId}
    {h : Handler ω D}
    {w : ω}
    {d : D}
    (hrow : m.row? i.current = some (.action next))
    (hh : m.handler? i.current = some h)
    (hrules : i.rules = {})
    (hrun : h.runAction i.surroundings i.data = (w, d, .ok ())) :
    m.step i =
      (m.commit next none (i.withEffect w d), .ok (.advanced i.current next none)) := by
  have hcap := m.checkCap_of_no_rules hrules
  have hact : m.runAction i = (i.withEffect w d, .ok ()) := by
    rw [m.runAction_of_handler hh, hrun]
    rfl
  exact m.advance_of_action none hrow hcap hact

/-- A step where a decision succeeds, without visit rules. -/
theorem step_of_decision
    (m : Machine ω D)
    {i : Instance ω D}
    {onTrue onFalse : StateId}
    {h : Handler ω D}
    {w : ω}
    {outcome : Bool}
    (hrow : m.row? i.current = some (.decision onTrue onFalse))
    (hh : m.handler? i.current = some h)
    (hrules : i.rules = {})
    (hask : h.evaluate i.surroundings i.data = (w, .ok outcome)) :
    m.step i =
      (m.commit (if outcome then onTrue else onFalse) (some outcome)
          (i.withEffect w i.data),
        .ok (.advanced i.current (if outcome then onTrue else onFalse)
          (some outcome))) := by
  have hcap := m.checkCap_of_no_rules hrules
  have hanswer : m.branchOutcome none i = (i.withEffect w i.data, .ok outcome) := by
    rw [branchOutcome, m.evaluate_of_handler hh, hask]
    rfl
  exact m.advance_of_decision hrow hcap hanswer

/-- A run to completion goes through whole steps to where they lead. -/
theorem runToCompletion_of_steps
    {m : Machine ω D}
    {count : Nat}
    {i j : Instance ω D}
    (h : m.Steps count i j)
    (bound : Nat) :
    m.runToCompletion (count + bound) i = m.runToCompletion bound j := by
  refine drive_of_steps h ?_ bound
  intro earlier hlt k hk
  simp [hk.isComplete_eq_false h hlt]

end Machine

namespace Collatz

/-- The number of the state of a stage. -/
def Stage.id (stage : Stage) : StateId :=
  Stage.all.idxOf stage

/-- Where a stage goes on. -/
def Stage.row : Stage → Row
  | initMachine => .action addNextProbeToStack.id
  | addNextProbeToStack => .action nextQueryInCache.id
  | nextQueryInCache => .decision addResultToCache.id addQueryToStack.id
  | addResultToCache => .action pollQueryStack.id
  | addQueryToStack => .action nextQueryInCache.id
  | pollQueryStack => .action queryStackEmpty.id
  | queryStackEmpty => .decision isNextAboveTarget.id nextQueryInCache.id
  | isNextAboveTarget => .decision calcComplete.id addNextProbeToStack.id
  | calcComplete => .terminal

/-- The machine of the chain search. -/
def machine : Machine Unit Search :=
  blueprint.assemble (Stage.all.map Stage.row) Stage.initMachine.id

theorem build_blueprint :
    blueprint.build = .ok machine :=
  Blueprint.build_eq_assemble (by decide +kernel) (by decide +kernel) (by decide +kernel)
    (by decide +kernel) rfl (List.isEmpty_iff.1 (by decide +kernel))

theorem row?_machine
    (stage : Stage) :
    machine.row? stage.id = some stage.row := by
  cases stage <;> rfl

theorem handler?_machine
    (stage : Stage) :
    machine.handler? stage.id = stage.handler? := by
  cases stage <;> rfl

theorem nameOf?_machine
    (stage : Stage) :
    machine.nameOf? stage.id = some stage.name := by
  cases stage <;> rfl

/-- The next stage, and the data there.  The last stage is not left. -/
def tick : Stage → Search → Except Failure (Stage × Search)
  | .initMachine, s => .ok (.addNextProbeToStack, s.begin)
  | .addNextProbeToStack, s => s.pushProbe.map (.nextQueryInCache, ·)
  | .nextQueryInCache, s =>
    s.isSuccessorKnown.map fun known =>
      (if known then .addResultToCache else .addQueryToStack, s)
  | .addResultToCache, s => s.enterLength.map (.pollQueryStack, ·)
  | .addQueryToStack, s => s.pushSuccessor.map (.nextQueryInCache, ·)
  | .pollQueryStack, s => .ok (.queryStackEmpty, s.pop)
  | .queryStackEmpty, s =>
    .ok (if s.isStackEmpty then .isNextAboveTarget else .nextQueryInCache, s)
  | .isNextAboveTarget, s =>
    .ok (if s.isTargetReached then .calcComplete else .addNextProbeToStack, s)
  | .calcComplete, s => .ok (.calcComplete, s)

/-- An instance without visit rules, at a stage of the search. -/
structure StandsAt (i : Instance Unit Search) (stage : Stage) (s : Search) : Prop where
  current_eq : i.current = stage.id
  data_eq : i.data = s
  rules_eq : i.rules = {}

theorem standsAt_newInstance
    (s : Search) :
    StandsAt (machine.newInstance () s) .initMachine s where
  current_eq := rfl
  data_eq := rfl
  rules_eq := rfl

section Steps

variable {i : Instance Unit Search} {stage next : Stage} {s s' : Search}

/-- The machine takes a step from a stage to the next, with the data that belong there. -/
def StepsTo (i : Instance Unit Search) (next : Stage) (s : Search) : Prop :=
  ∃ j source branch, machine.step i = (j, .ok (.advanced source next.id branch)) ∧
    StandsAt j next s

theorem stepsTo_of_action
    (hi : StandsAt i stage s)
    (hrow : stage.row = .action next.id)
    {h : Handler Unit Search}
    (hh : stage.handler? = some h)
    (hrun : h.runAction () s = ((), s', .ok ())) :
    StepsTo i next s' := by
  have hrow' : machine.row? i.current = some (.action next.id) := by
    rw [hi.current_eq, row?_machine, hrow]
  have hh' : machine.handler? i.current = some h := by
    rw [hi.current_eq, handler?_machine, hh]
  have hrun' : h.runAction i.surroundings i.data = ((), s', .ok ()) := by
    rw [hi.data_eq]
    exact hrun
  have hstep := machine.step_of_action hrow' hh' hi.rules_eq hrun'
  exact ⟨_, _, _, hstep, ⟨rfl, rfl, hi.rules_eq⟩⟩

/-- An action that may reject the data goes on where it does not. -/
theorem stepsTo_of_tryAction
    (hi : StandsAt i stage s)
    {after : Stage}
    (hrow : stage.row = .action after.id)
    {f : Search → Except Failure Search}
    (hh : stage.handler? = some (.tryProcedure f))
    (hf : (f s).map (after, ·) = .ok (next, s')) :
    StepsTo i next s' := by
  cases hresult : f s with
  | error failure =>
      rw [hresult] at hf
      cases hf
  | ok d =>
      rw [hresult] at hf
      cases hf
      refine stepsTo_of_action hi hrow hh ?_
      simp [Handler.tryProcedure, Handler.runAction, hresult]

theorem stepsTo_of_decision
    (hi : StandsAt i stage s)
    {onTrue onFalse : Stage}
    (hrow : stage.row = .decision onTrue.id onFalse.id)
    {h : Handler Unit Search}
    (hh : stage.handler? = some h)
    {outcome : Bool}
    (hask : h.evaluate () s = ((), .ok outcome)) :
    StepsTo i (if outcome then onTrue else onFalse) s := by
  have hrow' : machine.row? i.current = some (.decision onTrue.id onFalse.id) := by
    rw [hi.current_eq, row?_machine, hrow]
  have hh' : machine.handler? i.current = some h := by
    rw [hi.current_eq, handler?_machine, hh]
  have hask' : h.evaluate i.surroundings i.data = ((), .ok outcome) := by
    rw [hi.data_eq]
    exact hask
  have hstep := machine.step_of_decision hrow' hh' hi.rules_eq hask'
  rw [← apply_ite Stage.id] at hstep
  exact ⟨_, _, _, hstep, ⟨rfl, hi.data_eq, hi.rules_eq⟩⟩

/-- The machine does as `tick` says. -/
theorem stepsTo_of_tick
    (hi : StandsAt i stage s)
    (hopen : stage ≠ .calcComplete)
    (htick : tick stage s = .ok (next, s')) :
    StepsTo i next s' := by
  cases stage with
  | initMachine | pollQueryStack =>
      cases htick
      exact stepsTo_of_action hi rfl rfl rfl
  | addNextProbeToStack | addResultToCache | addQueryToStack =>
      exact stepsTo_of_tryAction hi rfl rfl htick
  | nextQueryInCache =>
      cases hknown : s.isSuccessorKnown with
      | error failure =>
          simp only [tick, hknown] at htick
          cases htick
      | ok known =>
          simp only [tick, hknown] at htick
          cases htick
          exact stepsTo_of_decision hi rfl rfl (by rw [← hknown]; rfl)
  | queryStackEmpty | isNextAboveTarget =>
      cases htick
      exact stepsTo_of_decision hi rfl rfl rfl
  | calcComplete =>
      exact absurd rfl hopen

/-- The next point of a way through the stages. -/
def Leads (a b : Stage × Search) : Prop :=
  a.1 ≠ .calcComplete ∧ tick a.1 a.2 = .ok b

/-- A way through the stages is a number of steps of the machine. -/
theorem exists_steps_of_leads
    {a b : Stage × Search}
    (h : Relation.ReflTransGen Leads a b)
    (hi : StandsAt i a.1 a.2) :
    ∃ count j, machine.Steps count i j ∧ StandsAt j b.1 b.2 := by
  induction h using Relation.ReflTransGen.head_induction_on generalizing i with
  | refl =>
      exact ⟨0, i, .zero i, hi⟩
  | @head a c hleads _ ih =>
      obtain ⟨j, source, branch, hstep, hj⟩ := stepsTo_of_tick hi hleads.1 hleads.2
      obtain ⟨count, k, hsteps, hk⟩ := ih hj
      exact ⟨count + 1, k, .succ hstep hsteps, hk⟩

/-- A search that comes to the last stage runs to completion, in any number of steps
from some on. -/
theorem exists_completion_of_leads
    {s s' : Search}
    (h : Relation.ReflTransGen Leads (.initMachine, s) (.calcComplete, s')) :
    ∃ enough j, StandsAt j .calcComplete s' ∧
      ∀ bound, enough ≤ bound →
        machine.runToCompletion bound (machine.newInstance () s) = (j, .done) := by
  obtain ⟨count, j, hsteps, hj⟩ := exists_steps_of_leads h (standsAt_newInstance s)
  refine ⟨count, j, hj, ?_⟩
  intro bound hbound
  obtain ⟨spare, rfl⟩ := Nat.exists_eq_add_of_le hbound
  have hcomplete : machine.isComplete j = true := by
    rw [Machine.isComplete_iff, hj.current_eq, row?_machine]
    rfl
  rw [Machine.runToCompletion_of_steps hsteps,
    machine.runToCompletion_of_complete hcomplete,
    machine.checkQuotas_of_no_rules hj.rules_eq]
  rfl

end Steps

end Collatz
end Flowchart

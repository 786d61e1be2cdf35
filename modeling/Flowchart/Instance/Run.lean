import Flowchart.Instance

/-!
# Runs of many steps

A run takes steps until its goal is met, the machine halts or a step fails.  A machine
need not ever halt, so a run is given a bound on the number of its steps, and says so
when the bound stops it.  A run whose goal is an instance asks for it first, then whether
the machine has halted, and only then takes a step.

## Main definitions

* `Machine.drive` takes steps until a verdict is given; most runs are made of it.
* `Machine.drivePast` has a step for its goal, and asks for it behind each step.
* `Machine.runToStepCount` needs no bound, since the count bounds it.
-/

namespace Flowchart

/-- How a run ended. -/
inductive Ending where
  | done
  | failed (error : RunError)
  /-- The bound on the number of steps stopped the run. -/
  | unfinished
  deriving Repr

def Ending.ofExcept : Except RunError Unit → Ending
  | .ok () => done
  | .error e => failed e

namespace Machine

variable {ω D : Type}

/-- Takes at most `bound` steps, until there is a verdict on the instance. -/
def drive (m : Machine ω D) (verdict : Instance ω D → Option (Except RunError Unit)) :
    (bound : Nat) → Instance ω D → Instance ω D × Ending
  | bound, i =>
    match verdict i with
    | some result => (i, .ofExcept result)
    | none =>
      match bound with
      | 0 => (i, .unfinished)
      | bound + 1 =>
        match m.step i with
        | (i, .ok _) => drive m verdict bound i
        | (i, .error e) => (i, .failed e)

/-- Takes at most `bound` steps until the goal is met.  Halting before that is an
error. -/
def driveTo (m : Machine ω D) (goal : Instance ω D → Bool)
    (onHalt : Instance ω D → RunError) (bound : Nat) (i : Instance ω D) :
    Instance ω D × Ending :=
  m.drive
    (fun i =>
      if goal i then some (.ok ())
      else if m.isComplete i then some (.error (onHalt i))
      else none)
    bound i

/-- The error of a run that halted before a target. -/
def unreachable (m : Machine ω D) (target : String) (i : Instance ω D) : RunError :=
  .targetUnreachable target (m.label i.current)

/-- Checks that every quota is met. -/
def checkQuotas (m : Machine ω D) (i : Instance ω D) : Except RunError Unit :=
  match i.rules.unmet m.label i.visits with
  | [] => .ok ()
  | violations => .error (.visitCountMismatch violations)

/-- Runs until the machine halts, and then checks the quotas. -/
def runToCompletion (m : Machine ω D) (bound : Nat) (i : Instance ω D) :
    Instance ω D × Ending :=
  m.drive (fun i => if m.isComplete i then some (m.checkQuotas i) else none) bound i

/-- Runs until the current state is the given one. -/
def runToState (m : Machine ω D) (bound : Nat) (text : String) (i : Instance ω D) :
    Instance ω D × Ending :=
  match m.resolve text with
  | .error e => (i, .failed e)
  | .ok id => m.driveTo (fun i => i.current = id) (m.unreachable (m.label id)) bound i

/-- Runs until a condition on the instance holds. -/
def runUntil (m : Machine ω D) (bound : Nat) (condition : Instance ω D → Bool)
    (i : Instance ω D) : Instance ω D × Ending :=
  m.driveTo condition (m.unreachable "predicate") bound i

/-- Takes at most `bound` steps, until one leaves the given state.  Halting before that is
an error. -/
def drivePast (m : Machine ω D) (id : StateId) :
    (bound : Nat) → Instance ω D → Instance ω D × Ending
  | bound, i =>
    if m.isComplete i then
      (i, .failed (.unexpectedTerminal (m.label id) (m.label i.current)))
    else
      match bound with
      | 0 => (i, .unfinished)
      | bound + 1 =>
        let previous := i.current
        match m.step i with
        | (i, .ok _) => if previous = id then (i, .done) else drivePast m id bound i
        | (i, .error e) => (i, .failed e)

/-- Runs until a step leaves the given state. -/
def runPastState (m : Machine ω D) (bound : Nat) (text : String) (i : Instance ω D) :
    Instance ω D × Ending :=
  match m.resolve text with
  | .error e => (i, .failed e)
  | .ok id => m.drivePast id bound i

/-- Takes the given number of steps.  Halting before that is an error. -/
def takeSteps (m : Machine ω D) (target : String) :
    (count : Nat) → Instance ω D → Instance ω D × Except RunError Unit
  | 0, i => (i, .ok ())
  | count + 1, i =>
    if m.isComplete i then (i, .error (m.unreachable target i))
    else
      match m.step i with
      | (i, .ok _) => takeSteps m target count i
      | (i, .error e) => (i, .error e)

/-- Runs until the step counter has the given value. -/
def runToStepCount (m : Machine ω D) (count : Nat) (i : Instance ω D) :
    Instance ω D × Except RunError Unit :=
  if count < i.steps then (i, .error (.stepCountPassed count i.steps))
  else m.takeSteps ("step " ++ toString count) (count - i.steps) i

end Machine
end Flowchart

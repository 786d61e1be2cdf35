import Flowchart.Log
import Flowchart.Machine
import Flowchart.RunError

/-!
# Instances and their steps

An instance is one live run of a machine.  It holds the current state, the data and the
books that are kept about the run: a step counter, a count of visits for each state, and
a log.

A step in an action state runs the action and goes to its only target.  A step in a
decision state asks the decision, unless an outcome is forced, and goes to the target of
the outcome.  Only a step that succeeds is entered in the books, and then in all of
them.

## Main definitions

* `Machine.newInstance` begins a run.
* `Machine.advance` takes one step, with or without a forced outcome.
-/

namespace Flowchart

structure Instance (ω D : Type) where
  /-- The current state. -/
  current : StateId
  /-- The number of transitions since the run began. -/
  steps : Nat
  data : D
  surroundings : ω
  /-- The transitions since the run began, if the machine keeps a log. -/
  log : Log
  /-- For every state, how often a transition left it since the run began. -/
  visits : List Nat
  rules : VisitRules
  /-- The number of runs that the instance began before this one. -/
  run : Nat

/-- What a step that is no error did. -/
inductive StepResult where
  | advanced (source target : StateId) (branch : Option Bool)
  /-- The state is terminal and nothing changed. -/
  | halted (state : StateId)
  deriving DecidableEq, Repr

namespace Machine

variable {ω D : Type}

def newInstance (m : Machine ω D) (surroundings : ω) (data : D) : Instance ω D where
  current := m.start
  steps := 0
  data := data
  surroundings := surroundings
  log := {}
  visits := m.states.map fun _ => 0
  rules := {}
  run := 0

/-- Begins the next run of an instance.  Data and visit rules stay as they are. -/
def restart (m : Machine ω D) (i : Instance ω D) : Instance ω D :=
  { i with
    current := m.start
    steps := 0
    log := {}
    visits := i.visits.map fun _ => 0
    run := i.run + 1 }

def isComplete (m : Machine ω D) (i : Instance ω D) : Bool :=
  m.isTerminal i.current

def stateKind (m : Machine ω D) (i : Instance ω D) : Kind :=
  (m.kind? i.current).getD .terminal

/-! ### Looking up states by name -/

def resolve (m : Machine ω D) (text : String) : Except RunError StateId :=
  match m.idOf? text with
  | some id => .ok id
  | none => .error (.unknownState m.name text)

def visitsOf? (m : Machine ω D) (text : String) (i : Instance ω D) : Option Nat :=
  (m.idOf? text).bind fun id => i.visits[id]?

/-- Fails unless the instance is in the given state. -/
def requireState (m : Machine ω D) (text : String) (i : Instance ω D) :
    Except RunError Unit := do
  let id ← m.resolve text
  if id = i.current then return ()
  else .error (.unexpectedState (m.label id) (m.label i.current))

/-- Caps the visits of a state. -/
def capVisits (m : Machine ω D) (text : String) (n : Nat) (i : Instance ω D) :
    Instance ω D × Except RunError Unit :=
  match m.resolve text with
  | .ok id => ({ i with rules := i.rules.setCap id n }, .ok ())
  | .error e => (i, .error e)

/-- Requires a number of visits of a state at the end of the run. -/
def requireVisits (m : Machine ω D) (text : String) (n : Nat) (i : Instance ω D) :
    Instance ω D × Except RunError Unit :=
  match m.resolve text with
  | .ok id => ({ i with rules := i.rules.setQuota id n }, .ok ())
  | .error e => (i, .error e)

def clearVisitRules (i : Instance ω D) : Instance ω D :=
  { i with rules := {} }

/-! ### Steps -/

/-- Checks the cap of the current state against one more visit. -/
def checkCap (m : Machine ω D) (i : Instance ω D) : Except RunError Unit :=
  match i.rules.checkEntry m.label i.current (i.visits.getD i.current 0 + 1) with
  | .ok () => .ok ()
  | .error violation => .error (.visitLimitExceeded violation)

/-- The error of a state whose handler failed. -/
def failed (m : Machine ω D) (i : Instance ω D) (failure : Failure) : RunError :=
  .handlerFailed (m.label i.current) failure

/-- Runs the action of the current state. -/
def runAction (m : Machine ω D) (i : Instance ω D) : Instance ω D × Except RunError Unit :=
  match m.handler? i.current with
  | none => (i, .error (m.failed i ⟨"no handler bound to state"⟩))
  | some h =>
    match h.runAction i.surroundings i.data with
    | (w, d, .ok ()) => ({ i with surroundings := w, data := d }, .ok ())
    | (w, d, .error failure) =>
      ({ i with surroundings := w, data := d }, .error (m.failed i failure))

/-- Asks the decision of the current state. -/
def evaluate (m : Machine ω D) (i : Instance ω D) : Instance ω D × Except RunError Bool :=
  match m.handler? i.current with
  | none => (i, .error (m.failed i ⟨"no handler bound to state"⟩))
  | some h =>
    match h.evaluate i.surroundings i.data with
    | (w, .ok outcome) => ({ i with surroundings := w }, .ok outcome)
    | (w, .error failure) => ({ i with surroundings := w }, .error (m.failed i failure))

/-- Enters a transition from the current state in the books and goes to its target. -/
def commit (m : Machine ω D) (target : StateId) (branch : Option Bool) (i : Instance ω D) :
    Instance ω D :=
  { i with
    current := target
    steps := i.steps + 1
    visits := i.visits.modify i.current (· + 1)
    log :=
      if m.settings.recordTransitions then
        i.log.push
          { step := i.steps + 1
            source := m.label i.current
            target := m.label target
            branch
            time := m.hooks.clock i.surroundings }
      else i.log }

/-- What a step in a terminal state answers. -/
def terminalStep (m : Machine ω D) (i : Instance ω D) : Except RunError StepResult :=
  match m.settings.terminalStep with
  | .ignore => .ok (.halted i.current)
  | .reject => .error (.terminalStep m.name (m.label i.current))

/-- The outcome of the current decision, forced or asked for. -/
def branchOutcome (m : Machine ω D) (forced : Option Bool) (i : Instance ω D) :
    Instance ω D × Except RunError Bool :=
  match forced with
  | some outcome => (i, .ok outcome)
  | none => m.evaluate i

/-- Takes one step.  A forced outcome replaces that of a decision; an action runs as
ever. -/
def advance (m : Machine ω D) (forced : Option Bool) (i : Instance ω D) :
    Instance ω D × Except RunError StepResult :=
  match (m.row? i.current).getD .terminal with
  | .terminal => (i, m.terminalStep i)
  | .action next =>
    match m.checkCap i with
    | .error e => (i, .error e)
    | .ok () =>
      match m.runAction i with
      | (i, .error e) => (i, .error e)
      | (i, .ok ()) => (m.commit next none i, .ok (.advanced i.current next none))
  | .decision onTrue onFalse =>
    match m.checkCap i with
    | .error e => (i, .error e)
    | .ok () =>
      match m.branchOutcome forced i with
      | (i, .error e) => (i, .error e)
      | (i, .ok outcome) =>
        let next := if outcome then onTrue else onFalse
        (m.commit next (some outcome) i, .ok (.advanced i.current next (some outcome)))

def step (m : Machine ω D) (i : Instance ω D) :
    Instance ω D × Except RunError StepResult :=
  m.advance none i

/-- Takes a step whose decision has the given outcome. -/
def replayStep (m : Machine ω D) (outcome : Bool) (i : Instance ω D) :
    Instance ω D × Except RunError StepResult :=
  m.advance (some outcome) i

/-- Passes a text from outside to the data. -/
def inject (m : Machine ω D) (input : String) (i : Instance ω D) :
    Instance ω D × Except RunError Unit :=
  match m.hooks.inject (m.label i.current) input i.surroundings i.data with
  | (w, d, .ok ()) => ({ i with surroundings := w, data := d }, .ok ())
  | (w, d, .error failure) =>
    ({ i with surroundings := w, data := d }, .error (m.failed i failure))

end Machine
end Flowchart

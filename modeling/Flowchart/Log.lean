import Flowchart.Time.Timestamp

/-!
# Transition logs

A log has one record for each transition, oldest first.  It holds the outcomes of the
decisions, so a run can be gone through again without asking them.
-/

namespace Flowchart

/-- One transition.  An action has no branch. -/
structure Record where
  /-- The number of transitions of the run, this one included. -/
  step : Nat
  source : String
  target : String
  branch : Option Bool
  time : Timestamp
  deriving DecidableEq, Repr

def Record.isDecision (r : Record) : Bool :=
  r.branch.isSome

structure Log where
  records : Array Record := #[]
  deriving DecidableEq, Repr

namespace Log

def size (log : Log) : Nat :=
  log.records.size

def push (log : Log) (r : Record) : Log :=
  ⟨log.records.push r⟩

/-- The states gone through: the first source, then every target. -/
def path (log : Log) : List String :=
  match log.records.toList with
  | [] => []
  | first :: rest => first.source :: (first :: rest).map Record.target

/-- The outcomes of the decisions, in the order in which they were taken. -/
def branches (log : Log) : List Bool :=
  log.records.toList.filterMap Record.branch

/-- The seconds and nanoseconds from the first record to the last, if the last is not
earlier. -/
def duration? (log : Log) : Option (Nat × Nat) := do
  let first ← log.records[0]?
  let last ← log.records.back?
  Timestamp.elapsed? first.time last.time

end Log
end Flowchart

import Flowchart.Entries
import Flowchart.Row

/-!
# Visit rules

A state is visited each time a step leaves it.  A cap bounds how often this may happen
and is checked before the step.  A quota says how often it has to have happened when the
run ends.  Setting a quota sets the cap to the same number.
-/

namespace Flowchart

/-- A visit rule that does not hold, with the name of the state that it is about. -/
inductive Violation where
  | tooManyVisits (state : String) (cap visits : Nat)
  | wrongVisitCount (state : String) (quota visits : Nat)
  deriving DecidableEq, Repr

namespace Violation

def state : Violation → String
  | tooManyVisits state _ _ => state
  | wrongVisitCount state _ _ => state

def message : Violation → String
  | tooManyVisits state cap visits =>
    "Visited state " ++ state ++ " " ++ toString visits ++
      " times, more than the allowed " ++
      toString cap
  | wrongVisitCount state quota visits =>
    "Visited state " ++ state ++ " " ++ toString visits ++ " times, but expected " ++
      toString quota

end Violation

/-- A number for some of the states, in ascending order of the states. -/
structure Limits where
  entries : List (StateId × Nat) := []
  deriving DecidableEq, Repr

namespace Limits

def set (l : Limits) (id : StateId) (n : Nat) : Limits :=
  ⟨Entries.insert id n l.entries⟩

def get? (l : Limits) (id : StateId) : Option Nat :=
  l.entries.lookup id

end Limits

structure VisitRules where
  caps : Limits := {}
  quotas : Limits := {}
  deriving DecidableEq, Repr

namespace VisitRules

def isEmpty (rules : VisitRules) : Bool :=
  rules.caps.entries.isEmpty && rules.quotas.entries.isEmpty

def setCap (rules : VisitRules) (id : StateId) (n : Nat) : VisitRules :=
  { rules with caps := rules.caps.set id n }

def setQuota (rules : VisitRules) (id : StateId) (n : Nat) : VisitRules :=
  { caps := rules.caps.set id n, quotas := rules.quotas.set id n }

/-- Checks the cap of a state against the number of visits that it would come to. -/
def checkEntry (rules : VisitRules) (nameOf : StateId → String) (id : StateId)
    (visits : Nat) :
    Except Violation Unit :=
  match rules.caps.get? id with
  | some cap =>
    if cap < visits then .error (.tooManyVisits (nameOf id) cap visits) else .ok ()
  | none => .ok ()

/-- The quotas that the visits of all states do not meet, in the order of the states. -/
def unmet (rules : VisitRules) (nameOf : StateId → String) (visits : List Nat) :
    List Violation :=
  rules.quotas.entries.filterMap fun (id, quota) =>
    let count := visits.getD id 0
    if count = quota then none else some (.wrongVisitCount (nameOf id) quota count)

end VisitRules
end Flowchart

import Flowchart.Text.Blank
import Flowchart.Text.Split

/-!
# Transition codes

A transition code says in a few characters where a state leads to.

* `0` : nowhere, the state is terminal.
* blank : to the next declared state; from the last one nowhere.
* `NQIC` : to the state with this acronym or full name.
* `F->AQTS` : on a false outcome to the named state, on a true one to the next declared
  state.
* `T->X, F->Y` : on each outcome to the state named for it.

Blanks may stand around every part.
-/

namespace Flowchart

/-- Why a text is no transition code, or a code cannot be used where it stands. -/
inductive CodeError where
  | missingArrow (branch : String)
  | unknownLabel (label : String)
  | missingTarget (branch : String)
  | repeatedLabel (label : Bool)
  | tooManyBranches (count : Nat)
  /-- The last declared state leaves a branch to its successor. -/
  | noSuccessor
  deriving DecidableEq, Repr

/-- A transition code before its names are resolved. -/
inductive Code where
  | stop
  | next
  | goto (target : String)
  /-- One outcome with a target; the other leads to the next declared state. -/
  | branch (outcome : Bool) (target : String)
  | both (onTrue onFalse : String)
  deriving DecidableEq, Repr

namespace Code

/-- The letter of an outcome. -/
def label (outcome : Bool) : String :=
  if outcome then "T" else "F"

end Code

def CodeError.message : CodeError → String
  | missingArrow branch => "branch '" ++ branch ++ "' must contain '->'"
  | unknownLabel label => "branch label must be T or F, found '" ++ label ++ "'"
  | missingTarget branch => "branch '" ++ branch ++ "' has no target"
  | repeatedLabel label =>
    "both branches are labelled " ++ Code.label label ++ ", expected one T and one F"
  | tooManyBranches count =>
    "can only specify one or two branches, found " ++ toString count
  | noSuccessor => "last declared state has no default successor for the other branch"

namespace Code

/-- Reads one branch, an outcome and its target. -/
def parseBranch (branch : List Char) : Except CodeError (Bool × String) :=
  match Text.cutArrow branch with
  | none => .error (.missingArrow (String.ofList (Text.trim branch)))
  | some (label, target) =>
    let label := Text.trim label
    let target := Text.trim target
    if label = ['T'] ∨ label = ['F'] then
      if target = [] then .error (.missingTarget (String.ofList (Text.trim branch)))
      else .ok (label = ['T'], String.ofList target)
    else .error (.unknownLabel (String.ofList label))

/-- The code of two branches that were read. -/
def ofBranches (first second : Bool × String) : Except CodeError Code :=
  if first.1 = second.1 then .error (.repeatedLabel first.1)
  else if first.1 then .ok (both first.2 second.2)
  else .ok (both second.2 first.2)

/-- Reads the branches of a code in which an arrow occurs. -/
def parseBranches (code : List Char) : Except CodeError Code :=
  match Text.pieces ',' code with
  | [single] => do
    let (outcome, target) ← parseBranch single
    return branch outcome target
  | [first, second] => do
    let first ← parseBranch first
    let second ← parseBranch second
    ofBranches first second
  | pieces => .error (.tooManyBranches pieces.length)

def parse (text : String) : Except CodeError Code :=
  let code := Text.trim text.toList
  if code = ['0'] then .ok stop
  else if code = [] then .ok next
  else if (Text.cutArrow code).isNone then .ok (goto (String.ofList code))
  else parseBranches code

end Code
end Flowchart

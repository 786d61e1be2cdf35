import Flowchart.Blueprint.Build
import Flowchart.Collatz.Search
import Flowchart.Declared
import Flowchart.Text.Numeral

/-!
# The chain search as a machine

The stages of the search and the machine made of them.
-/

namespace Flowchart
namespace Collatz

inductive Stage where
  | initMachine
  | addNextProbeToStack
  | nextQueryInCache
  | addResultToCache
  | addQueryToStack
  | pollQueryStack
  | queryStackEmpty
  | isNextAboveTarget
  | calcComplete
  deriving DecidableEq, Repr

namespace Stage

def all : List Stage :=
  [initMachine, addNextProbeToStack, nextQueryInCache, addResultToCache, addQueryToStack,
   pollQueryStack, queryStackEmpty, isNextAboveTarget, calcComplete]

def name : Stage → String
  | initMachine => "InitMachine"
  | addNextProbeToStack => "AddNextProbeToStack"
  | nextQueryInCache => "NextQueryInCache"
  | addResultToCache => "AddResultToCache"
  | addQueryToStack => "AddQueryToStack"
  | pollQueryStack => "PollQueryStack"
  | queryStackEmpty => "QueryStackEmpty"
  | isNextAboveTarget => "IsNextAboveTarget"
  | calcComplete => "CalcComplete"

def code : Stage → String
  | initMachine => ""
  | addNextProbeToStack => ""
  | nextQueryInCache => "F->AQTS"
  | addResultToCache => "PQS"
  | addQueryToStack => "NQIC"
  | pollQueryStack => ""
  | queryStackEmpty => "F->NQIC"
  | isNextAboveTarget => "F->ANPTS"
  | calcComplete => "0"

/-- What a stage does.  The last one does nothing. -/
def handler? : Stage → Option (Handler Unit Search)
  | initMachine => some (.procedure Search.begin)
  | addNextProbeToStack => some (.tryProcedure Search.pushProbe)
  | nextQueryInCache => some (.tryPredicate Search.isSuccessorKnown)
  | addResultToCache => some (.tryProcedure Search.enterLength)
  | addQueryToStack => some (.tryProcedure Search.pushSuccessor)
  | pollQueryStack => some (.procedure Search.pop)
  | queryStackEmpty => some (.predicate Search.isStackEmpty)
  | isNextAboveTarget => some (.predicate Search.isTargetReached)
  | calcComplete => none

end Stage

instance : Declared Stage where
  all := Stage.all
  name := Stage.name
  code := Stage.code

/-- Takes a number from outside and looks at its chain too. -/
def inject (_state input : String) (w : Unit) (s : Search) :
    Unit × Search × Except Failure Unit :=
  match Text.readNumeral Text.maxWord (Text.trim input.toList) with
  | .ok n => (w, { s with pending := s.pending.insert n }, .ok ())
  | .error _ => (w, s, .error ⟨"expected a number, got '" ++ input ++ "'"⟩)

def blueprint : Blueprint Unit Search where
  name := "ChainSearch"
  declarations := Declared.declarations Stage
  handlers := Stage.all.filterMap fun stage =>
    stage.handler?.map fun h => (handlerName stage.name, h)
  hooks :=
    { diagnostics := Search.diagnostics
      inject := inject }

end Collatz
end Flowchart

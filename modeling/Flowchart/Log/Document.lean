import Flowchart.Json.Reader
import Flowchart.Json.Writer
import Flowchart.Log
import Flowchart.Text.Numeral
import Flowchart.Time.Reader

/-!
# Logs as JSON documents

A log is written as an object with the array of its records, a record as an object with
its fields in order.  Both are also read from arrays that give all their fields in
order.  A record of the object form may leave out its branch.
-/

namespace Flowchart

open Json (Value)

namespace Record

def writeJson (r : Record) : String :=
  Json.writeObject
    [("step", toString r.step),
     ("from", Json.writeString r.source),
     ("to", Json.writeString r.target),
     ("branch", r.branch.elim "null" Json.writeBool),
     ("timestamp", Json.writeString r.time.write)]

/-- The branch of a record, which is null for an action. -/
def readBranch? : Value → Option (Option Bool)
  | .null => some none
  | .bool b => some (some b)
  | _ => none

/-- The record with the given values for its fields. -/
def ofValues? (step source target branch time : Value) : Option Record := do
  let step ← step.nat? Text.maxWord
  let source ← source.string?
  let target ← target.string?
  let branch ← readBranch? branch
  let time ← time.string?.bind Timestamp.read?
  return { step, source, target, branch, time }

def ofJson? : Value → Option Record
  | .array [step, source, target, branch, time] => ofValues? step source target branch time
  | .object members =>
    if Value.isRecord ["step", "from", "to", "branch", "timestamp"] members then do
      let step ← Value.member? "step" members
      let source ← Value.member? "from" members
      let target ← Value.member? "to" members
      let branch := (Value.member? "branch" members).getD .null
      let time ← Value.member? "timestamp" members
      ofValues? step source target branch time
    else none
  | _ => none

end Record

namespace Log

def writeJson (log : Log) : String :=
  Json.writeObject [("records", Json.writeArray (log.records.toList.map Record.writeJson))]

def ofRecords? (records : Value) : Option Log :=
  (records.list? Record.ofJson?).map fun records => ⟨records.toArray⟩

def ofJson? : Value → Option Log
  | .array [records] => ofRecords? records
  | .object members =>
    if Value.isRecord ["records"] members then
      (Value.member? "records" members).bind ofRecords?
    else none
  | _ => none

def readJson? (text : String) : Option Log :=
  (Json.read? text).bind ofJson?

end Log
end Flowchart

import Flowchart.Instance

/-!
# Replay

Going through a run again along its log.  A record must start where the instance stands.
The step then has the recorded outcome, and it must end where the record ends.  The
first record that does not fit stops the replay.
-/

namespace Flowchart

def StepResult.landing : StepResult → StateId
  | advanced _ target _ => target
  | halted state => state

namespace Machine

variable {ω D : Type}

/-- Takes the step of one record. -/
def replayRecord (m : Machine ω D) (r : Record) (i : Instance ω D) :
    Instance ω D × Except RunError Unit :=
  if m.label i.current ≠ r.source then
    (i, .error (.replayDiverged r.step r.source (m.label i.current)))
  else
    match m.advance r.branch i with
    | (i, .error e) => (i, .error e)
    | (i, .ok result) =>
      if m.label result.landing ≠ r.target then
        (i, .error (.replayDiverged r.step r.target (m.label result.landing)))
      else (i, .ok ())

def replayRecords (m : Machine ω D) :
    List Record → Instance ω D → Instance ω D × Except RunError Unit
  | [], i => (i, .ok ())
  | r :: rest, i =>
    match m.replayRecord r i with
    | (i, .ok ()) => replayRecords m rest i
    | (i, .error e) => (i, .error e)

def replay (m : Machine ω D) (log : Log) (i : Instance ω D) :
    Instance ω D × Except RunError Unit :=
  m.replayRecords log.records.toList i

end Machine
end Flowchart

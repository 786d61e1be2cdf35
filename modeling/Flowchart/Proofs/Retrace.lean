import Flowchart.Proofs.Build
import Flowchart.Proofs.Operation
import Mathlib.Data.List.Forall2

/-!
# What a replay takes

A replay that succeeds takes the transition of each record in turn, from the state
that the record names to the state that it names.  Nothing is assumed of the log.

There is one exception.  Where the machine has halted and steps there are ignored, a
record that goes from the terminal state to itself fits without a transition.  Such
records are idle.  The instance stays where it is, so all records after an idle one
are idle too.
-/

namespace Flowchart
namespace Machine

variable {ω D : Type} {m : Machine ω D}

/-- A transition between the states that a record names. -/
def Retraces (m : Machine ω D) (t : Transition) (r : Record) : Prop :=
  m.nameOf? t.source = some r.source ∧ m.nameOf? t.target = some r.target

/-- A record that leads from the terminal state of an instance to itself, where steps
in terminal states are ignored. -/
structure Idle (m : Machine ω D) (i : Instance ω D) (r : Record) : Prop where
  ignored : m.settings.terminalStep = .ignore
  complete : m.isComplete i = true
  source_eq : m.nameOf? i.current = some r.source
  target_eq : m.nameOf? i.current = some r.target

/-- A record is replayed exactly if it starts where the instance stands, its step
succeeds, and it ends where the step leads. -/
theorem replayRecord_eq_ok_iff
    (r : Record)
    (i j : Instance ω D) :
    m.replayRecord r i = (j, .ok ()) ↔
      m.label i.current = r.source ∧
      ∃ result, m.advance r.branch i = (j, .ok result) ∧
        m.label result.landing = r.target := by
  unfold replayRecord
  by_cases hsource : m.label i.current = r.source
  · rcases hstep : m.advance r.branch i with ⟨k, e | result⟩
    · simp [hsource]
    · by_cases htarget : m.label result.landing = r.target
      · simp [hsource, htarget]
      · simp only [hsource, htarget, ne_eq, not_true, not_false_iff, if_false, if_true,
          Prod.mk.injEq, reduceCtorEq, and_false, true_and, Except.ok.injEq, false_iff,
          not_exists, not_and]
        rintro other ⟨-, rfl⟩
        exact htarget
  · simp [hsource]

/-- A replayed record is idle, or its transition is taken. -/
theorem idle_or_retraces_of_replayRecord
    (hm : m.WellFormed)
    {r : Record}
    {i j : Instance ω D}
    (hlt : i.current < m.states.length)
    (h : m.replayRecord r i = (j, .ok ())) :
    (m.Idle i r ∧ j = i ∧ m.retraceTransitions r i = []) ∨
    ∃ t, m.isComplete i = false ∧ m.Retraces t r ∧ m.retraceTransitions r i = [t] ∧
      j.steps = i.steps + 1 ∧ j.current < m.states.length := by
  obtain ⟨hsource, result, hstep, htarget⟩ := (replayRecord_eq_ok_iff r i j).1 h
  have hname := nameOf?_of_lt m hlt
  simp only [retraceTransitions, hsource, if_true, stepTransitions, hstep]
  rcases (Advance.of_eq hstep).halts_or_commits with
    ⟨hcomplete, hignored, rfl, rfl⟩ | ⟨branch, target, w, d, hopen, -, hedge, rfl, rfl⟩
  · refine .inl ⟨⟨hignored, hcomplete, ?_, ?_⟩, rfl, rfl⟩
    · rw [hname, hsource]
    · rw [hname, ← htarget]
      rfl
  · have hlt' := hedge.target_lt hm
    refine .inr ⟨⟨i.current, branch, target⟩, hopen, ⟨?_, ?_⟩, rfl, rfl, hlt'⟩
    · rw [hname, hsource]
    · rw [nameOf?_of_lt m hlt', ← htarget]
      rfl

/-- Where the machine has halted, all records of a replay are idle. -/
theorem idle_of_replayRecords
    (hm : m.WellFormed)
    {records : List Record}
    {i j : Instance ω D}
    (hlt : i.current < m.states.length)
    (hcomplete : m.isComplete i = true)
    (h : m.replayRecords records i = (j, .ok ())) :
    (∀ r ∈ records, m.Idle i r) ∧ j = i ∧ m.replayTransitions records i = [] := by
  induction records with
  | nil =>
      obtain ⟨rfl, -⟩ := Prod.mk.inj h
      simp [replayTransitions]
  | cons r rest ih =>
      unfold replayRecords at h
      unfold replayTransitions
      rcases hrecord : m.replayRecord r i with ⟨k, e | _⟩
      · simp [hrecord] at h
      · simp only [hrecord] at h ⊢
        rcases idle_or_retraces_of_replayRecord hm hlt hrecord with
          ⟨hidle, rfl, hnone⟩ | ⟨t, hopen, -⟩
        · obtain ⟨hall, hj, hrest⟩ := ih h
          refine ⟨?_, hj, by simp [hnone, hrest]⟩
          simpa [hidle] using hall
        · rw [hcomplete] at hopen
          cases hopen

/-- Every replay that succeeds retraces the records up to the first idle one. -/
theorem retraces_of_replayRecords
    (hm : m.WellFormed)
    {records : List Record}
    {i j : Instance ω D}
    (hlt : i.current < m.states.length)
    (h : m.replayRecords records i = (j, .ok ())) :
    ∃ taken idle,
      records = taken ++ idle ∧
      List.Forall₂ m.Retraces (m.replayTransitions records i) taken ∧
      j.steps = i.steps + taken.length ∧
      ∀ r ∈ idle, m.Idle j r := by
  induction records generalizing i with
  | nil =>
      obtain ⟨rfl, -⟩ := Prod.mk.inj h
      exact ⟨[], [], rfl, .nil, rfl, by simp⟩
  | cons r rest ih =>
      by_cases hcomplete : m.isComplete i = true
      · obtain ⟨hidle, rfl, hnone⟩ := idle_of_replayRecords hm hlt hcomplete h
        refine ⟨[], r :: rest, rfl, ?_, rfl, hidle⟩
        rw [hnone]
        exact .nil
      · unfold replayRecords at h
        unfold replayTransitions
        rcases hrecord : m.replayRecord r i with ⟨k, e | _⟩
        · simp [hrecord] at h
        · simp only [hrecord] at h ⊢
          rcases idle_or_retraces_of_replayRecord hm hlt hrecord with
            ⟨hidle, -⟩ | ⟨t, -, ht, hone, hsteps, hlt'⟩
          · exact absurd hidle.complete hcomplete
          · obtain ⟨taken, idle, rfl, hall, hj, hidle⟩ := ih hlt' h
            refine ⟨r :: taken, idle, rfl, ?_, ?_, hidle⟩
            · rw [hone]
              exact .cons ht hall
            · rw [hj, hsteps, List.length_cons]
              omega

/-- A replay that succeeds takes the transitions of a first part of the log, one for
each record, and every record after that part is idle. -/
theorem retraces_of_replay
    {b : Blueprint ω D}
    (hbuild : b.build = .ok m)
    {i j : Instance ω D}
    (hi : m.Reachable i)
    {log : Log}
    (hreplay : m.replay log i = (j, .ok ())) :
    ∃ taken idle,
      log.records.toList = taken ++ idle ∧
      List.Forall₂ m.Retraces (m.transitions (.replay log) i) taken ∧
      j.steps = i.steps + taken.length ∧
      ∀ r ∈ idle, m.Idle j r := by
  have hm := Blueprint.wellFormed_of_build hbuild
  exact retraces_of_replayRecords hm (hi.current_lt hm) hreplay

/-- Two transitions of the small machine and an idle record. -/
def idleLog : Log :=
  ⟨#[⟨1, "Init", "Check", none, .epoch⟩, ⟨2, "Check", "Done", some true, .epoch⟩,
    ⟨3, "Done", "Done", none, .epoch⟩]⟩

/-- A log with an idle record replays, and the counter does not grow by its size. -/
theorem replay_idleLog :
    ∃ i j : Instance Nat Nat,
      Blueprint.lenient.build = .ok Blueprint.lenientMachine ∧
      Blueprint.lenientMachine.Reachable i ∧
      Blueprint.lenientMachine.replay idleLog i = (j, .ok ()) ∧
      j.steps ≠ i.steps + idleLog.size :=
  ⟨_, _, Blueprint.build_lenient, .start 0 0, rfl, by decide⟩

/-- The first two records of the log are retraced, and the third is idle. -/
theorem retraces_idleLog :
    ∃ i j : Instance Nat Nat,
      Blueprint.lenient.build = .ok Blueprint.lenientMachine ∧
      Blueprint.lenientMachine.Reachable i ∧
      Blueprint.lenientMachine.replay idleLog i = (j, .ok ()) ∧
      j.steps = i.steps + 2 ∧
      ∃ taken idle,
        idleLog.records.toList = taken ++ idle ∧
        List.Forall₂ Blueprint.lenientMachine.Retraces
          (Blueprint.lenientMachine.transitions (.replay idleLog) i) taken ∧
        j.steps = i.steps + taken.length ∧
        ∀ r ∈ idle, Blueprint.lenientMachine.Idle j r := by
  have hi : Blueprint.lenientMachine.Reachable _ := .start 0 0
  have hreplay : Blueprint.lenientMachine.replay idleLog
      (Blueprint.lenientMachine.newInstance 0 0) = (_, .ok ()) := rfl
  exact ⟨_, _, Blueprint.build_lenient, hi, hreplay, rfl,
    retraces_of_replay Blueprint.build_lenient hi hreplay⟩

end Machine
end Flowchart

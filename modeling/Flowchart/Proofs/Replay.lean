import Flowchart.Proofs.Build
import Flowchart.Proofs.Operation

/-!
# Recorded runs replay

Playing a machine is stepping it and setting visit rules on the way.  If no action
fails meanwhile, the run is a sequence of moves, and the log has the branch of
each.  A replay repeats the actions, which do the same again, and takes the
branches from the log; so it needs neither the decisions nor the visit rules.

The replay of one more record is compared with one more move.  The two instances
then differ at most in their surroundings, their rules and the times in their logs.
-/

namespace Flowchart

variable {ω D : Type}

/-- A record without its time. -/
def Record.untimed (r : Record) : Record :=
  { r with time := .epoch }

/-- A log without its times. -/
def Log.untimed (log : Log) : Log :=
  ⟨log.records.map Record.untimed⟩

theorem Log.untimed_push
    (log : Log)
    (r : Record) :
    (log.push r).untimed = log.untimed.push r.untimed := by
  simp [untimed, push]

/-- Two instances that have the same run behind them, up to its times. -/
structure Instance.SameRun (i j : Instance ω D) : Prop where
  current_eq : j.current = i.current
  steps_eq : j.steps = i.steps
  visits_eq : j.visits = i.visits
  data_eq : j.data = i.data
  log_eq : j.log.untimed = i.log.untimed

namespace Machine

variable {m : Machine ω D}

/-- The instances that playing a machine leads to while no action fails. -/
inductive Played (m : Machine ω D) (d : D) : Instance ω D → Prop
  | start (w : ω) :
      Played m d (m.newInstance w d)
  | perform {i : Instance ω D} (op : Operation ω D)
      (hi : Played m d i)
      (hop : op.Plays)
      (hok : ¬ m.ActionFailed (m.perform op i).1 (m.perform op i).2) :
      Played m d (m.perform op i).1

/-- What every move keeps holds of all played instances. -/
theorem Played.invariant
    {d : D}
    {P : Instance ω D → Prop}
    (hstart : ∀ w, P (m.newInstance w d))
    (hmove : ∀ i j, m.Move i j → P i → P j)
    {i : Instance ω D}
    (hi : m.Played d i) :
    P i := by
  have hrules : ∀ (i : Instance ω D) rules,
      Relation.ReflTransGen m.Move i { i with rules := rules } :=
    fun i rules => .single (.rules i rules)
  induction hi with
  | start w =>
      exact hstart w
  | perform op _ hop hok ih =>
      have hmoves := m.stepClosed_moves.perform_of_plays hrules hop _ hok
      exact keeps_of_reflTransGen hmove hmoves ih

/-- A transition keeps two instances in step. -/
theorem sameRun_commit
    {i j : Instance ω D}
    (h : i.SameRun j)
    (target : StateId)
    (branch : Option Bool) :
    (m.commit target branch i).SameRun (m.commit target branch j) where
  current_eq := by
    rfl
  steps_eq := by
    simp [h.steps_eq]
  visits_eq := by
    simp [h.visits_eq, h.current_eq]
  data_eq := h.data_eq
  log_eq := by
    cases hrecord : m.settings.recordTransitions with
    | false =>
        rw [commit_log_of_not_recording _ _ _ _ hrecord,
          commit_log_of_not_recording _ _ _ _ hrecord, h.log_eq]
    | true =>
        rw [commit_log_of_recording _ _ _ _ hrecord,
          commit_log_of_recording _ _ _ _ hrecord,
          Log.untimed_push, Log.untimed_push, h.log_eq]
        simp [recordOf, Record.untimed, h.steps_eq, h.current_eq]

/-- A deterministic action does the same in two instances in step. -/
theorem runAction_of_sameRun
    (hdet : ∀ p h, m.handler? p = some h → h.Deterministic)
    {i j : Instance ω D}
    (h : i.SameRun j)
    {w : ω}
    {d : D}
    (hrun : m.runAction i = (i.withEffect w d, .ok ())) :
    ∃ w', m.runAction j = (j.withEffect w' d, .ok ()) := by
  cases hh : m.handler? i.current with
  | none =>
      simp [runAction, hh] at hrun
  | some handler =>
      obtain ⟨answer, hanswer, hok⟩ := runAction_answer hh hrun
      rw [(hdet _ _ hh).runAction _ j.surroundings, ← h.data_eq] at hanswer
      rw [← h.current_eq] at hh
      refine ⟨(handler.runAction j.surroundings j.data).1, ?_⟩
      rw [m.runAction_of_handler hh, hanswer]
      cases answer with
      | ok _ => rfl
      | error failure => cases hok

/-- Replaying one more record is replaying the ones before, then that one. -/
theorem replayRecords_concat
    (records : List Record)
    (r : Record)
    {i j : Instance ω D}
    (h : m.replayRecords records i = (j, .ok ())) :
    m.replayRecords (records ++ [r]) i = m.replayRecord r j := by
  induction records generalizing i with
  | nil =>
      obtain ⟨rfl, -⟩ := Prod.mk.inj h
      simp only [List.nil_append, replayRecords]
      rcases m.replayRecord r i with ⟨k, _ | _⟩ <;> rfl
  | cons first rest ih =>
      simp only [List.cons_append, replayRecords] at h ⊢
      rcases hfirst : m.replayRecord first i with ⟨k, _ | _⟩
      · simp [hfirst] at h
      · simp only [hfirst] at h ⊢
        exact ih h

/-- A record fits where its step can be taken again. -/
theorem replayRecord_of_advance
    {r : Record}
    {i j : Instance ω D}
    {target : StateId}
    (hsource : r.source = m.label i.current)
    (hadvance : m.advance r.branch i =
      (j, .ok (.advanced i.current target r.branch)))
    (htarget : r.target = m.label target) :
    m.replayRecord r i = (j, .ok ()) := by
  simp [replayRecord, hadvance, hsource, htarget, StepResult.landing]

/-- The log of an instance replays, and nothing but surroundings, rules and times
tells the result from the instance. -/
def Replays (m : Machine ω D) (d : D) (i : Instance ω D) : Prop :=
  ∀ w, ∃ j, m.replay i.log (m.newInstance w d) = (j, .ok ()) ∧
    i.SameRun j ∧ j.rules = {}

/-- One more transition replays, if it can be taken again where the replay of the
ones before ends. -/
theorem Replays.commit
    (hrecord : m.settings.recordTransitions = true)
    {d d' : D}
    {i : Instance ω D}
    {w : ω}
    {target : StateId}
    {branch : Option Bool}
    (hi : m.Replays d i)
    (hagain : ∀ j, i.SameRun j → j.rules = {} →
      ∃ w', m.advance branch j =
        (m.commit target branch (j.withEffect w' d'),
          .ok (.advanced j.current target branch))) :
    m.Replays d (m.commit target branch (i.withEffect w d')) := by
  intro w₀
  obtain ⟨j, hreplay, hsame, hrules⟩ := hi w₀
  obtain ⟨w', hadvance⟩ := hagain j hsame hrules
  have heffect : (i.withEffect w d').SameRun (j.withEffect w' d') :=
    { hsame with data_eq := rfl }
  refine ⟨_, ?_, sameRun_commit heffect target branch, hrules⟩
  rw [replay, commit_log_of_recording _ _ _ _ hrecord, Log.push, Array.toList_push,
    Instance.withEffect_log, replayRecords_concat _ _ hreplay]
  refine replayRecord_of_advance ?_ hadvance rfl
  simp [recordOf, hsame.current_eq]

/-- Every move keeps the log one that replays. -/
theorem Replays.move
    (hrecord : m.settings.recordTransitions = true)
    (hdet : ∀ p h, m.handler? p = some h → h.Deterministic)
    {d : D}
    {i j : Instance ω D}
    (hmove : m.Move i j)
    (hi : m.Replays d i) :
    m.Replays d j := by
  cases hmove with
  | observe w | rules rules =>
      intro w₀
      obtain ⟨k, hreplay, hsame, hrules⟩ := hi w₀
      exact ⟨k, hreplay, { hsame with }, hrules⟩
  | act hrow hrun =>
      refine hi.commit hrecord ?_
      intro k hsame hrules
      obtain ⟨w', hrun'⟩ := runAction_of_sameRun hdet hsame hrun
      rw [← hsame.current_eq] at hrow
      exact ⟨w', m.advance_of_action none hrow (m.checkCap_of_no_rules hrules) hrun'⟩
  | decide outcome w hrow =>
      refine hi.commit hrecord ?_
      intro k hsame hrules
      rw [← hsame.current_eq] at hrow
      have hask : m.branchOutcome (some outcome) k = (k, .ok outcome) := rfl
      refine ⟨k.surroundings, ?_⟩
      rw [m.advance_of_decision hrow (m.checkCap_of_no_rules hrules) hask,
        ← hsame.data_eq, k.withEffect_self]

/-- The log of a run in which no action failed replays on a new instance with the
same data, and leads to the same state, counter, visits, data and log. -/
theorem replay_of_played
    {b : Blueprint ω D}
    (hbuild : b.build = .ok m)
    (hrecord : m.settings.recordTransitions = true)
    (hdet : ∀ r ∈ b.handlers, r.2.Deterministic)
    {d : D}
    {i : Instance ω D}
    (hi : m.Played d i)
    (w : ω) :
    ∃ j, m.replay i.log (m.newInstance w d) = (j, .ok ()) ∧ i.SameRun j := by
  have hregistered : ∀ p h, m.handler? p = some h → h.Deterministic := by
    intro p h hh
    obtain ⟨name, hmem⟩ := Blueprint.exists_registered_of_build hbuild hh
    exact hdet _ hmem
  have hreplays : m.Replays d i := by
    apply hi.invariant
    · intro w w₀
      exact ⟨_, rfl, ⟨rfl, rfl, rfl, rfl, rfl⟩, rfl⟩
    · intro i j hmove
      exact Replays.move hrecord hregistered hmove
  obtain ⟨j, hreplay, hsame, -⟩ := hreplays w
  exact ⟨j, hreplay, hsame⟩

/-- A run of the small machine with a forced outcome and a visit rule, replayed in
other surroundings. -/
theorem replay_retry :
    ∃ i j : Instance Nat Nat,
      Blueprint.retry.build = .ok Blueprint.retryMachine ∧
      Blueprint.retryMachine.Played 0 i ∧
      i.log.size = 6 ∧
      Blueprint.retryMachine.replay i.log (Blueprint.retryMachine.newInstance 5 0) =
        (j, .ok ()) ∧
      i.SameRun j := by
  have hquiet : ∀ (i : Instance Nat Nat) (e : Option RunError),
      e.isNone = true → ¬ Blueprint.retryMachine.ActionFailed i e := by
    intro i e he
    rw [Option.isNone_iff_eq_none.1 he]
    exact id
  have hi : Blueprint.retryMachine.Played 0 _ :=
    .perform (.runToCompletion 10)
      (.perform (.requireVisits "Init" 3)
        (.perform (.replayStep false)
          (.perform .step (.start 0) trivial (hquiet _ _ (by decide +kernel)))
          trivial (hquiet _ _ (by decide +kernel)))
        trivial (hquiet _ _ (by decide +kernel)))
      trivial (hquiet _ _ (by decide +kernel))
  have hdet : ∀ r ∈ Blueprint.retry.handlers, r.2.Deterministic := by
    simp [Blueprint.retry, Handler.Deterministic]
  obtain ⟨j, hreplay, hsame⟩ := replay_of_played Blueprint.build_retry rfl hdet hi 5
  exact ⟨_, j, Blueprint.build_retry, hi, by decide +kernel, hreplay, hsame⟩

end Machine
end Flowchart

import Flowchart.Proofs.Mirror

/-!
# Replay asks no decision

A record that leaves a decision has the branch that was taken, and a replay forces it.
So the functions of the decisions play no part in a replay: two machines that differ in
them alone give the same answer to a log, at the same record, and leave the same behind.
The records of a log are compared one by one, also where a cap or an action stops the
replay or where it diverges.
-/

namespace Flowchart

variable {ω D : Type}

/-- Two handlers of one kind that differ in the function of a decision at most. -/
inductive Handler.SameButTest : Handler ω D → Handler ω D → Prop
  | action (run : ω → D → ω × D × Except Failure Unit) :
      SameButTest (.action run) (.action run)
  | decision (test test' : ω → D → ω × Except Failure Bool) :
      SameButTest (.decision test) (.decision test')

/-- The handler with another function, if it is a decision. -/
def Handler.retest (test : ω → D → ω × Except Failure Bool) : Handler ω D → Handler ω D
  | action run => action run
  | decision _ => decision test

theorem Handler.sameButTest_retest
    (test : ω → D → ω × Except Failure Bool)
    (h : Handler ω D) :
    h.SameButTest (h.retest test) := by
  cases h with
  | action run => exact .action run
  | decision test' => exact .decision test' test

/-- Run as actions, the two handlers do the same. -/
theorem Handler.SameButTest.actsAlike
    {S : ω → ω → Prop}
    {h h' : Handler ω D}
    (hsame : h.SameButTest h')
    (hr : h.kind = .action → h.Respects S) :
    h.ActsAlike S h' := by
  cases hsame with
  | action run => exact (hr rfl).actsAlike
  | decision test test' => exact fun w w' d hw => ⟨rfl, hw⟩

/-- Two states that differ in the function of a decision at most. -/
structure State.SameButTest (s s' : State ω D) : Prop where
  name_eq : s'.name = s.name
  index_eq : s'.index = s.index
  code_eq : s'.code = s.code
  row_eq : s'.row = s.row
  handler : Option.Rel Handler.SameButTest s.handler s'.handler

/-- The state with another function for its handler, if that is a decision. -/
def State.retest (test : ω → D → ω × Except Failure Bool) (s : State ω D) : State ω D :=
  { s with handler := s.handler.map (.retest test) }

theorem State.sameButTest_retest
    (test : ω → D → ω × Except Failure Bool)
    (s : State ω D) :
    s.SameButTest (s.retest test) where
  name_eq := rfl
  index_eq := rfl
  code_eq := rfl
  row_eq := rfl
  handler := by
    unfold retest
    cases s.handler with
    | none => exact .none
    | some h => exact .some (h.sameButTest_retest test)

namespace Machine

/-- Two machines that differ in the functions of their decisions at most. -/
structure SameButTests (m m' : Machine ω D) : Prop where
  states : ∀ p : Nat, Option.Rel State.SameButTest m.states[p]? m'.states[p]?
  rest_eq : m' = { m with states := m'.states }

/-- A record that leaves a decision has a branch. -/
def BranchKnown (m : Machine ω D) (r : Record) : Prop :=
  ∀ id, m.nameOf? id = some r.source → m.kind? id = some .decision → r.branch ≠ none

/-- How many records a replay goes through before one does not fit. -/
def replayedCount (m : Machine ω D) : List Record → Instance ω D → Nat
  | [], _ => 0
  | r :: rest, i =>
      match m.replayRecord r i with
      | (j, .ok ()) => replayedCount m rest j + 1
      | (_, .error _) => 0

/-- The machine with another function for all its decisions. -/
def retest (m : Machine ω D) (test : ω → D → ω × Except Failure Bool) : Machine ω D :=
  { m with states := m.states.map (.retest test) }

theorem sameButTests_retest
    (m : Machine ω D)
    (test : ω → D → ω × Except Failure Bool) :
    m.SameButTests (m.retest test) where
  states := by
    intro p
    simp only [retest, List.getElem?_map]
    cases m.states[p]? with
    | none => exact .none
    | some s => exact .some (s.sameButTest_retest test)
  rest_eq := rfl

section Replay

variable {S : ω → ω → Prop} {m m' : Machine ω D} {i i' : Instance ω D}

/-- What does not depend on the functions of decisions is the same for the states of
both. -/
theorem SameButTests.map_eq
    (hsame : m.SameButTests m')
    {β : Type}
    {f : State ω D → β}
    (hf : ∀ s s', s.SameButTest s' → f s' = f s)
    (p : StateId) :
    m'.states[p]?.map f = m.states[p]?.map f := by
  have hstate := hsame.states p
  generalize m.states[p]? = s, m'.states[p]? = s' at hstate ⊢
  cases hstate with
  | none => rfl
  | some hstate => exact congrArg some (hf _ _ hstate)

theorem SameButTests.row?_eq
    (hsame : m.SameButTests m')
    (p : StateId) :
    m'.row? p = m.row? p :=
  hsame.map_eq (fun _ _ hstate => hstate.row_eq) p

theorem SameButTests.label_eq
    (hsame : m.SameButTests m')
    (p : StateId) :
    m'.label p = m.label p :=
  congrArg (fun name => name.getD (StateId.tag p))
    (hsame.map_eq (fun _ _ hstate => hstate.name_eq) p)

theorem SameButTests.handler
    (hsame : m.SameButTests m')
    (p : StateId) :
    Option.Rel Handler.SameButTest (m.handler? p) (m'.handler? p) := by
  have hstate := hsame.states p
  unfold handler?
  generalize m.states[p]? = s, m'.states[p]? = s' at hstate ⊢
  cases hstate with
  | none => exact .none
  | some hstate => exact hstate.handler

theorem SameButTests.mirrors
    (hsame : m.SameButTests m')
    (hr : ∀ p h, m.handler? p = some h → h.kind = .action → h.Respects S) :
    m.Mirrors S m' id where
  name_eq := by rw [hsame.rest_eq]
  settings_eq := by rw [hsame.rest_eq]
  injective := Function.injective_id
  row_eq := by
    intro p
    rw [id_eq, hsame.row?_eq]
    cases m.row? p <;> simp
  label_eq := hsame.label_eq
  acts := by
    intro p
    have hhandler := hsame.handler p
    rw [id_eq]
    generalize hh : m.handler? p = h, m'.handler? p = h' at hhandler
    cases hhandler with
    | none => exact .none
    | some hpair => exact .some (hpair.actsAlike (hr p _ hh))

/-- With the same rules the same caps are exceeded. -/
theorem SameButTests.checkCap_eq
    (hsame : m.SameButTests m')
    (h : i.SameRun i')
    (hrules : i'.rules = i.rules) :
    m'.checkCap i' = m.checkCap i := by
  unfold checkCap
  rw [hrules, funext hsame.label_eq, h.current_eq, h.visits_eq]

/-- A step that a replay takes has a branch where a decision is to be made. -/
theorem BranchKnown.branch_ne_none
    {r : Record}
    (hr : m.BranchKnown r)
    (hsource : m.label i.current = r.source)
    (hkind : m.kind? i.current = some .decision) :
    r.branch ≠ none := by
  refine hr i.current ?_ hkind
  obtain ⟨row, hrow, -⟩ := Option.map_eq_some_iff.1 hkind
  obtain ⟨s, hs, -⟩ := Option.map_eq_some_iff.1 hrow
  rw [m.nameOf?_of_lt (List.getElem?_eq_some_iff.1 hs).1, hsource]

/-- The records of a built machine have a branch where they leave a decision. -/
theorem Reachable.branchKnown
    {b : Blueprint ω D}
    (hbuild : b.build = .ok m)
    (hi : m.Reachable i) :
    ∀ r ∈ i.log.records, m.BranchKnown r := by
  apply hi.invariant (P := fun i => ∀ r ∈ i.log.records, m.BranchKnown r)
  · simp [newInstance]
  · intro i j hchange hknown
    cases hchange with
    | effect | rules => exact hknown
    | restart => simp [restart]
    | @commit target branch hcap hedge =>
        cases hrecord : m.settings.recordTransitions with
        | false =>
            rwa [commit_log_of_not_recording _ _ _ _ hrecord]
        | true =>
            rw [commit_log_of_recording _ _ _ _ hrecord]
            simp only [Log.push, Array.mem_push]
            rintro r (hr | rfl)
            · exact hknown r hr
            · -- the new record leaves the state that has its source as its name
              intro id hname hkind hnone
              obtain rfl : id = i.current :=
                Blueprint.id_eq_of_nameOf? hbuild hname (m.nameOf?_of_lt hedge.source_lt)
              obtain rfl : branch = none := hnone
              cases hedge with
              | action hrow => simp [kind?, hrow, Row.kind] at hkind

theorem replayRecord_rules
    (m : Machine ω D)
    (r : Record)
    (i : Instance ω D) :
    (m.replayRecord r i).1.rules = i.rules :=
  m.stepClosed_rules.of_course (m.course_replayRecord r i) trivial

/-- One record is replayed alike, if it has a branch where it leaves a decision. -/
theorem SameButTests.replayRecord
    (hsame : m.SameButTests m')
    (hr : ∀ p h, m.handler? p = some h → h.kind = .action → h.Respects S)
    (h : i.Mirrored S id i')
    (hrules : i'.rules = i.rules)
    {r : Record}
    (hknown : m.BranchKnown r) :
    (m'.replayRecord r i').2 = (m.replayRecord r i).2 ∧
    (m.replayRecord r i).1.Mirrored S id (m'.replayRecord r i').1 := by
  have hcurrent : m'.label i'.current = m.label i.current := by
    rw [h.current_eq, hsame.label_eq, id_eq]
  unfold Machine.replayRecord
  rw [hcurrent]
  by_cases hsource : m.label i.current = r.source
  · have hask : m.kind? i.current = some .decision → r.branch = none →
        Option.Rel (Handler.AnswersAlike S) (m.handler? i.current)
          (m'.handler? i'.current) :=
      fun hkind hnone => absurd hnone (hknown.branch_ne_none hsource hkind)
    obtain ⟨hresult, hafter⟩ := (hsame.mirrors hr).advance h
      (fun _ => hsame.checkCap_eq h.sameRun hrules) hask
    simp only [hsource, ne_eq, not_true, if_false]
    rcases hstep : m.advance r.branch i with ⟨j, result⟩
    rcases hstep' : m'.advance r.branch i' with ⟨j', result'⟩
    rw [hstep, hstep'] at hresult hafter
    cases result with
    | error e =>
        cases hresult
        exact ⟨rfl, hafter⟩
    | ok result =>
        cases hresult
        simp only [StepResult.landing_rename, id_eq, hsame.label_eq]
        split <;> exact ⟨rfl, hafter⟩
  · simpa [hsource] using h

/-- A list of records is replayed alike, and breaks off at the same record. -/
theorem SameButTests.replayRecords
    (hsame : m.SameButTests m')
    (hr : ∀ p h, m.handler? p = some h → h.kind = .action → h.Respects S)
    (h : i.Mirrored S id i')
    (hrules : i'.rules = i.rules)
    {records : List Record}
    (hknown : ∀ r ∈ records, m.BranchKnown r) :
    (m'.replayRecords records i').2 = (m.replayRecords records i).2 ∧
    m'.replayedCount records i' = m.replayedCount records i ∧
    (m.replayRecords records i).1.Mirrored S id (m'.replayRecords records i').1 := by
  induction records generalizing i i' with
  | nil =>
      exact ⟨rfl, rfl, h⟩
  | cons r rest ih =>
      obtain ⟨hfirst, hrest⟩ := List.forall_mem_cons.1 hknown
      obtain ⟨hresult, hafter⟩ := hsame.replayRecord hr h hrules hfirst
      have hafterRules : (m'.replayRecord r i').1.rules =
          (m.replayRecord r i).1.rules := by
        rw [replayRecord_rules, replayRecord_rules, hrules]
      unfold Machine.replayRecords replayedCount
      rcases hrecord : m.replayRecord r i with ⟨j, result⟩
      rcases hrecord' : m'.replayRecord r i' with ⟨j', result'⟩
      rw [hrecord, hrecord'] at hresult hafter hafterRules
      obtain rfl : result' = result := hresult
      cases result' with
      | error e =>
          exact ⟨rfl, rfl, hafter⟩
      | ok _ =>
          obtain ⟨hanswer, hcount, hend⟩ := ih hafter hafterRules hrest
          exact ⟨hanswer, congrArg (· + 1) hcount, hend⟩

end Replay

/-- Two machines that differ in the functions of their decisions alone replay a log
alike from instances that are the same, if each record that leaves a decision has a
branch.  The surroundings of the two may differ by anything that no action sees. -/
theorem replay_asks_no_decision
    {m m' : Machine ω D}
    (hsame : m.SameButTests m')
    {S : ω → ω → Prop}
    (hr : ∀ p h, m.handler? p = some h → h.kind = .action → h.Respects S)
    {i i' : Instance ω D}
    (hrun : i.SameRun i')
    (hrules : i'.rules = i.rules)
    (hrelated : S i.surroundings i'.surroundings)
    {log : Log}
    (hknown : ∀ r ∈ log.records, m.BranchKnown r) :
    (m'.replay log i').2 = (m.replay log i).2 ∧
    m'.replayedCount log.records.toList i' = m.replayedCount log.records.toList i ∧
    (m.replay log i).1.SameRun (m'.replay log i').1 ∧
    S (m.replay log i).1.surroundings (m'.replay log i').1.surroundings := by
  have hlist : ∀ r ∈ log.records.toList, m.BranchKnown r := by
    simpa using hknown
  obtain ⟨hresult, hcount, hend⟩ :=
    hsame.replayRecords hr (hrun.mirrored hrelated) hrules hlist
  exact ⟨hresult, hcount, hend.sameRun, hend.related⟩

/-- The function of a decision that always fails. -/
def mute : Nat → Nat → Nat × Except Failure Bool :=
  fun calls _ => (calls, .error ⟨"no answer"⟩)

/-- The small machine with a decision that never answers, in other surroundings: it
stops at its decision, but replays a whole run of the small machine. -/
theorem replay_mute :
    ∃ i j j' : Instance Nat Nat,
      Blueprint.retry.build = .ok Blueprint.retryMachine ∧
      i.log.size = 6 ∧
      (Blueprint.retryMachine.retest mute).isComplete
        ((Blueprint.retryMachine.retest mute).runToCompletion 10
          ((Blueprint.retryMachine.retest mute).newInstance 5 0)).1 = false ∧
      Blueprint.retryMachine.replay i.log (Blueprint.retryMachine.newInstance 0 0) =
        (j, .ok ()) ∧
      (Blueprint.retryMachine.retest mute).replay i.log
        ((Blueprint.retryMachine.retest mute).newInstance 5 0) = (j', .ok ()) ∧
      j.SameRun j' := by
  have hr : ∀ p h, Blueprint.retryMachine.handler? p = some h → h.kind = .action →
      h.Respects fun _ _ => True := by
    intro p h hh _
    have hdet : ∀ r ∈ Blueprint.retry.handlers, r.2.Deterministic := by
      simp [Blueprint.retry, Handler.Deterministic]
    exact (Blueprint.forall_handler_of_build Blueprint.build_retry hdet p h hh).respects
  have hi : Blueprint.retryMachine.Reachable _ :=
      .perform (.runToCompletion 10) (.start 0 0)
  have hrun : (Blueprint.retryMachine.newInstance 0 0).SameRun
      ((Blueprint.retryMachine.retest mute).newInstance 5 0) :=
    ⟨rfl, rfl, rfl, rfl, rfl⟩
  obtain ⟨hresult, -, hend, -⟩ := replay_asks_no_decision
    (Blueprint.retryMachine.sameButTests_retest mute) hr hrun rfl trivial
    (hi.branchKnown Blueprint.build_retry)
  have hok : (Blueprint.retryMachine.replay (Blueprint.retryMachine.perform
      (.runToCompletion 10) (Blueprint.retryMachine.newInstance 0 0)).1.log
      (Blueprint.retryMachine.newInstance 0 0)).2 = .ok () := by
    rfl
  exact ⟨_, _, _, Blueprint.build_retry, by decide +kernel, by decide +kernel,
    Prod.ext rfl hok, Prod.ext rfl (hresult.trans hok), hend⟩

end Machine
end Flowchart

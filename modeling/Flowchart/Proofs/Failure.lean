import Flowchart.Proofs.Operation

/-!
# Where errors come from

A step fails in a terminal state, at a cap, or because the handler of its state answers
with a failure.  A run reports the error of a step, or refuses to go on, and either
happens at an instance that operations lead to.  Later modules go through these cases
when they say something of every error.
-/

namespace Flowchart

variable {ω D : Type}

/-! ### Steps that fail -/

/-- The function in a handler answers with a failure. -/
def Handler.Fails : Handler ω D → ω → D → Failure → Prop
  | action run, w, d, failure => (run w d).2.2 = .error failure
  | decision test, w, d, failure => (test w d).2 = .error failure

namespace Handler

variable {h : Handler ω D} {w : ω} {d : D} {failure : Failure}

/-- An action that is run fails only by its own function. -/
theorem fails_of_runAction
    (hkind : h.kind = .action)
    (hanswer : (h.runAction w d).2.2 = .error failure) :
    h.Fails w d failure := by
  cases h with
  | action run => exact hanswer
  | decision test => cases hkind

/-- A decision that is asked fails only by its own function. -/
theorem fails_of_evaluate
    (hkind : h.kind = .decision)
    (hanswer : (h.evaluate w d).2 = .error failure) :
    h.Fails w d failure := by
  cases h with
  | action run => cases hkind
  | decision test => exact hanswer

end Handler

namespace Machine

variable {m : Machine ω D}

/-- A state with a row that is not terminal has a handler of the kind of the row. -/
theorem WellFormed.exists_handler
    (hm : m.WellFormed)
    {s : StateId}
    {row : Row}
    (hrow : m.row? s = some row)
    (hkind : row ≠ .terminal) :
    ∃ h, m.handler? s = some h ∧ h.kind = row.kind := by
  obtain ⟨state, hs, rfl⟩ := Option.map_eq_some_iff.1 hrow
  obtain ⟨h, hh, hkind⟩ := hm.handler_kind state (List.mem_of_getElem? hs) hkind
  exact ⟨h, by simp [handler?, hs, hh], hkind⟩

/-- Exactly the terminal states have no handler, and each handler is of the kind of
its state. -/
theorem WellFormed.handler_iff
    (hm : m.WellFormed)
    {s : StateId}
    {row : Row}
    (hrow : m.row? s = some row) :
    (m.handler? s = none ↔ row = .terminal) ∧
    ∀ h, m.handler? s = some h → h.kind = row.kind := by
  by_cases hterminal : row = .terminal
  · obtain ⟨state, hs, rfl⟩ := Option.map_eq_some_iff.1 hrow
    have hnone := hm.handler_none state (List.mem_of_getElem? hs) hterminal
    simp [handler?, hs, hnone, hterminal]
  · obtain ⟨h, hh, hkind⟩ := hm.exists_handler hrow hterminal
    simp [hh, hterminal, hkind]

theorem resolve_eq_ok_iff
    (m : Machine ω D)
    (text : String)
    (id : StateId) :
    m.resolve text = .ok id ↔ m.idOf? text = some id := by
  unfold resolve
  cases m.idOf? text <;> simp

theorem resolve_error
    {text : String}
    {e : RunError}
    (h : m.resolve text = .error e) :
    e = .unknownState m.name text := by
  unfold resolve at h
  cases hid : m.idOf? text with
  | some id => simp [hid] at h
  | none => simpa [hid] using h.symm

theorem checkQuotas_error
    {i : Instance ω D}
    {e : RunError}
    (h : m.checkQuotas i = .error e) :
    e = .visitCountMismatch (i.rules.unmet m.label i.visits) := by
  unfold checkQuotas at h
  split at h
  · cases h
  · exact (Except.error.inj h).symm

theorem checkCap_error
    {i : Instance ω D}
    {e : RunError}
    (h : m.checkCap i = .error e) :
    ∃ cap visits,
      e = .visitLimitExceeded (.tooManyVisits (m.label i.current) cap visits) := by
  cases hget : i.rules.caps.get? i.current with
  | none =>
      simp [checkCap, VisitRules.checkEntry, hget] at h
  | some cap =>
      simp only [checkCap, VisitRules.checkEntry, hget] at h
      split_ifs at h
      exact ⟨cap, _, (Except.error.inj h).symm⟩

/-- A decision fails with the error of a handler. -/
theorem branchOutcome_error
    {forced : Option Bool}
    {i j : Instance ω D}
    {e : RunError}
    (h : m.branchOutcome forced i = (j, .error e)) :
    ∃ failure, e = m.failed i failure := by
  cases forced with
  | some outcome =>
      cases (Prod.mk.inj h).2
  | none =>
      cases hh : m.handler? i.current with
      | none =>
          simp only [branchOutcome, evaluate, hh, Prod.mk.injEq, Except.error.injEq] at h
          exact ⟨_, h.2.symm⟩
      | some handler =>
          have he := evaluate_answer hh h
          cases hanswer : (handler.evaluate i.surroundings i.data).2 with
          | ok outcome => simp [hanswer] at he
          | error failure =>
              rw [hanswer] at he
              exact ⟨failure, Except.error.inj he⟩

/-- A step fails in a terminal state, at a cap, or because the handler of its state
answers with a failure. -/
theorem Advance.error_cases
    (hm : m.WellFormed)
    {forced : Option Bool}
    {i j : Instance ω D}
    {e : RunError}
    (h : m.Advance forced i j (.error e)) :
    e = .terminalStep m.name (m.label i.current) ∨
    (∃ cap visits,
      e = .visitLimitExceeded (.tooManyVisits (m.label i.current) cap visits)) ∨
    ∃ handler failure, m.handler? i.current = some handler ∧
      m.kind? i.current = some handler.kind ∧
      handler.Fails i.surroundings i.data failure ∧ e = m.failed i failure := by
  generalize hanswer : Except.error e = answer at h
  cases h with
  | stopped hrow =>
      unfold terminalStep at hanswer
      split at hanswer
      · cases hanswer
      · exact .inl (Except.error.inj hanswer)
  | capped hrow hkind hcap =>
      cases hanswer
      exact .inr (.inl (checkCap_error hcap))
  | actionFailed hrow hcap hrun =>
      cases hanswer
      obtain ⟨handler, hh, hkind⟩ := hm.exists_handler hrow (by simp)
      obtain ⟨answer, hanswer, he⟩ := runAction_answer hh hrun
      cases answer with
      | ok _ => cases he
      | error failure =>
          have hfails := Handler.fails_of_runAction hkind (congrArg Prod.snd hanswer)
          exact .inr (.inr ⟨handler, failure, hh, by simp [kind?, hrow, hkind], hfails,
            Except.error.inj he⟩)
  | @decisionFailed onTrue onFalse e w hrow hcap hask =>
      cases hanswer
      cases forced with
      | some outcome => cases (Prod.mk.inj hask).2
      | none =>
          obtain ⟨handler, hh, hkind⟩ := hm.exists_handler hrow (by simp)
          have he := evaluate_answer hh hask
          cases hanswer : (handler.evaluate i.surroundings i.data).2 with
          | ok _ => simp [hanswer] at he
          | error failure =>
              have hfails := Handler.fails_of_evaluate hkind hanswer
              rw [hanswer] at he
              exact .inr (.inr ⟨handler, failure, hh, by simp [kind?, hrow, hkind], hfails,
                Except.error.inj he⟩)
  | acted | decided =>
      cases hanswer

/-! ### Where errors come from -/

/-- A step is an operation, whatever it is forced to. -/
theorem Reachable.advance
    {i : Instance ω D}
    (hi : m.Reachable i)
    (forced : Option Bool) :
    m.Reachable (m.advance forced i).1 := by
  cases forced with
  | none => exact .perform .step hi
  | some outcome => exact .perform (.replayStep outcome) hi

/-- An error of a run was refused, or was the error of a step, at an instance that
operations lead to. -/
theorem Course.error_origin
    {i j : Instance ω D}
    {taken : List Transition}
    {e : RunError}
    (hcourse : m.Course i taken (some e) j)
    (hi : m.Reachable i) :
    (m.Reachable j ∧ m.Refuses j e) ∨
    ∃ k forced, m.Reachable k ∧ m.advance forced k = (j, .error e) := by
  generalize hreport : some e = report at hcourse
  induction hcourse with
  | stay i =>
      cases hreport
  | refused h =>
      cases hreport
      exact .inl ⟨hi, h⟩
  | failed h =>
      cases hreport
      exact .inr ⟨_, _, hi, h⟩
  | @step i j k forced result rest e h _ ih =>
      have hj := hi.advance forced
      rw [h] at hj
      exact ih hj hreport

/-- An error of an operation was refused, or was the error of a step, at an instance
that operations lead to, or was the answer to a text from outside. -/
theorem perform_error_origin
    {i : Instance ω D}
    (hi : m.Reachable i)
    {op : Operation ω D}
    {e : RunError}
    (h : (m.perform op i).2 = some e) :
    (∃ k, m.Reachable k ∧ m.Refuses k e) ∨
    (∃ k forced j, m.Reachable k ∧ m.advance forced k = (j, .error e)) ∨
    ∃ input failure, op = .inject input ∧ e = m.failed i failure ∧
      (m.hooks.inject (m.label i.current) input i.surroundings i.data).2.2 =
        .error failure := by
  by_cases hop : op.Travels
  · have hcourse := m.course_of_travels hop i
    rw [h] at hcourse
    rcases hcourse.error_origin hi with ⟨hj, hrefuses⟩ | ⟨k, forced, hk, hfailed⟩
    · exact .inl ⟨_, hj, hrefuses⟩
    · exact .inr (.inl ⟨k, forced, _, hk, hfailed⟩)
  · cases op with
    | capVisits state visits | requireVisits state visits =>
        simp only [perform, capVisits, requireVisits] at h
        cases hid : m.resolve state with
        | ok id =>
            simp [hid, errorOf] at h
        | error unknown =>
            simp only [hid, errorOf, Option.some.injEq] at h
            subst h
            exact .inl ⟨i, hi, .unknown hid⟩
    | clearVisitRules | restart | setData w d =>
        cases h
    | inject input =>
        simp only [perform, inject] at h
        rcases hanswer : m.hooks.inject (m.label i.current) input i.surroundings i.data
          with ⟨w, d, failure | _⟩
        · simp only [hanswer, errorOf, Option.some.injEq] at h
          exact .inr (.inr ⟨input, failure, rfl, h.symm, by rw [hanswer]⟩)
        · simp [hanswer, errorOf] at h
    | _ =>
        exact absurd trivial hop

end Machine
end Flowchart

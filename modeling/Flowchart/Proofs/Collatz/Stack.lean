import Flowchart.Proofs.Collatz.Inputs
import Mathlib.Data.List.Chain

/-!
# No stage of a search fails

A stage that needs a number finds it: the stages with a query are entered only when one
is on the stack, the length of the top number is entered only when that of its successor
is known, and a probe is made only when a number is pending.

The stack is the part of one orbit that is still to be answered, with the last number in
front.  A number from outside is pending from then on and leaves the stack alone.
-/

namespace Flowchart
namespace Collatz

theorem Stage.eq_of_name_eq
    {stage stage' : Stage}
    (h : stage.name = stage'.name) :
    stage = stage' := by
  have hnodup : (Stage.all.map Stage.name).Nodup := by
    decide +kernel
  have hall : ∀ stage : Stage, stage ∈ Stage.all := by
    intro stage
    cases stage <;> decide
  exact List.inj_on_of_nodup_map hnodup (hall stage) (hall stage') h

namespace Search

variable {s s' : Search} {stage after : Stage}

/-! ### The stack -/

/-- From front to back, each number on the stack is the successor of the one behind it. -/
def Stacked (s : Search) : Prop :=
  s.queries.IsChain fun front behind => front = next behind

theorem Stacked.of_queries
    (hs : s.Stacked)
    (hqueries : s'.queries = s.queries) :
    s'.Stacked := by
  rw [Stacked, hqueries]
  exact hs

/-- The stack stays a part of an orbit from stage to stage. -/
theorem Stacked.tick
    (hs : s.Stacked)
    (hready : s.Ready stage)
    (htick : tick stage s = .ok (after, s')) :
    s'.Stacked := by
  cases stage with
  | initMachine =>
      cases htick
      exact hs.of_queries rfl
  | addNextProbeToStack =>
      obtain ⟨hempty, hpending⟩ := hready
      obtain ⟨q, hmin⟩ := exists_min?_pending hpending
      rw [(leads_probe hmin).2] at htick
      cases htick
      simp [Stacked, hempty]
  | nextQueryInCache =>
      obtain ⟨q, rest, hqueries⟩ := hready
      rw [(leads_ask hqueries).2] at htick
      cases htick
      exact hs
  | addResultToCache =>
      obtain ⟨q, rest, hqueries, hknown⟩ := hready
      obtain ⟨length, hlength⟩ :=
        Option.isSome_iff_exists.1 (Std.TreeMap.mem_iff_isSome_getElem?.1 hknown)
      rw [(leads_enter hqueries hlength).2] at htick
      cases htick
      exact hs.of_queries rfl
  | addQueryToStack =>
      obtain ⟨q, rest, hqueries, -⟩ := hready
      rw [(leads_push hqueries).2] at htick
      cases htick
      rw [Stacked, hqueries] at hs ⊢
      exact List.isChain_cons_cons.2 ⟨rfl, hs⟩
  | pollQueryStack =>
      cases htick
      exact List.IsChain.tail hs
  | queryStackEmpty | isNextAboveTarget | calcComplete =>
      cases htick
      exact hs

end Search

/-- Operations one after the other leave a part of an orbit on the stack. -/
theorem stacked_of_performAll
    (target : Nat)
    {ops : List (Operation Unit Search)}
    (hops : ∀ op ∈ ops, op.Feeds) :
    (machine.performAll ops
      (machine.newInstance () { target := target })).data.Stacked := by
  induction ops using List.reverseRecOn with
  | nil =>
      exact List.isChain_nil
  | append_singleton ops op ih =>
      have hearlier : ∀ op ∈ ops, op.Feeds := fun op hop => hops op (by simp [hop])
      have hop := hops op (by simp)
      obtain ⟨stage, s, hi, hs⟩ := exists_fed_of_performAll target hearlier
      have hstacked := ih hearlier
      rw [hi.data_eq] at hstacked
      rw [Machine.performAll_concat]
      cases op with
      | step =>
          obtain ⟨after, s', htick, -⟩ := hs.tick
          rw [(hi.step htick).data_eq]
          exact hstacked.tick hs.ready htick
      | inject text =>
          rw [(hi.pass text).data_eq]
          exact hstacked.of_queries rfl
      | _ =>
          exact hop.elim

/-! ### Every stage finds what it needs -/

/-- The stages that look at the top of the stack or take it off. -/
def Stage.NeedsQuery : Stage → Prop
  | nextQueryInCache | addResultToCache | addQueryToStack | pollQueryStack => True
  | _ => False

theorem Search.queries_ne_nil
    {s : Search}
    {stage : Stage}
    (hready : s.Ready stage)
    (hneeds : stage.NeedsQuery) :
    s.queries ≠ [] := by
  cases stage with
  | nextQueryInCache | pollQueryStack =>
      obtain ⟨q, rest, hqueries⟩ := hready
      simp [hqueries]
  | addResultToCache | addQueryToStack =>
      obtain ⟨q, rest, hqueries, -⟩ := hready
      simp [hqueries]
  | _ =>
      exact hneeds.elim

/-- The instance is in the state of a stage. -/
def At (m : Machine Unit Search) (i : Instance Unit Search) (stage : Stage) : Prop :=
  m.nameOf? i.current = some stage.name

/-- What an instance of the search has for its next step, whatever stage that is. -/
structure Equipped (m : Machine Unit Search) (i : Instance Unit Search) : Prop where
  /-- No handler fails. -/
  handled : ∀ state failure, (m.step i).2 ≠ .error (.handlerFailed state failure)
  /-- Every stage but the last is left. -/
  advances : At m i .calcComplete ∨
    ∃ source target branch, (m.step i).2 = .ok (.advanced source target branch)
  query : ∀ stage : Stage, stage.NeedsQuery → At m i stage → i.data.queries ≠ []
  known : At m i .addResultToCache →
    ∃ q rest, i.data.queries = q :: rest ∧ next q ∈ i.data.lengths
  probe : At m i .addNextProbeToStack → i.data.queries = [] ∧ ∃ n, n ∈ i.data.pending
  stacked : i.data.Stacked

section StandsAt

variable {i : Instance Unit Search} {stage : Stage} {s : Search}

theorem StandsAt.at_iff
    (hi : StandsAt i stage s)
    (stage' : Stage) :
    At machine i stage' ↔ stage' = stage := by
  rw [At, hi.current_eq, nameOf?_machine, Option.some_inj]
  constructor
  · exact fun hname => (Stage.eq_of_name_eq hname).symm
  · rintro rfl
    rfl

/-- At the last stage a step is refused. -/
theorem StandsAt.step_of_complete
    (hi : StandsAt i .calcComplete s) :
    machine.step i =
      (i, .error (.terminalStep machine.name (machine.label i.current))) := by
  have hrow : machine.row? i.current = some .terminal := by
    rw [hi.current_eq, row?_machine]
    rfl
  have hrefused : machine.terminalStep i =
      .error (.terminalStep machine.name (machine.label i.current)) := rfl
  simp [Machine.step, Machine.advance, hrow, hrefused]

theorem StandsAt.equipped
    {numbers : List Nat}
    (hi : StandsAt i stage s)
    (hs : s.Fed numbers stage)
    (hstacked : s.Stacked) :
    Equipped machine i := by
  have hready := hs.ready
  have hnext : stage = .calcComplete ∨
      ∃ source target branch, (machine.step i).2 =
        .ok (.advanced source target branch) := by
    by_cases hopen : stage = .calcComplete
    · exact .inl hopen
    · obtain ⟨after, s', htick, -⟩ := hs.tick
      obtain ⟨j, source, branch, hstep, -⟩ := stepsTo_of_tick hi hopen htick
      exact .inr ⟨source, after.id, branch, by rw [hstep]⟩
  constructor
  case handled =>
      intro state failure hfail
      rcases hnext with rfl | ⟨source, target, branch, hstep⟩
      · rw [hi.step_of_complete] at hfail
        cases hfail
      · rw [hstep] at hfail
        cases hfail
  case advances =>
      exact hnext.imp_left fun hend => (hi.at_iff _).2 hend.symm
  case query =>
      intro stage' hneeds hat
      obtain rfl := (hi.at_iff stage').1 hat
      rw [hi.data_eq]
      exact Search.queries_ne_nil hready hneeds
  case known =>
      intro hat
      obtain rfl := (hi.at_iff _).1 hat
      rw [hi.data_eq]
      exact hready
  case probe =>
      intro hat
      obtain rfl := (hi.at_iff _).1 hat
      rw [hi.data_eq]
      exact hready
  case stacked =>
      rw [hi.data_eq]
      exact hstacked

end StandsAt

/-- Numbers may be passed in between any two steps: no handler fails, and each stage finds
what it needs. -/
theorem equipped_of_feeds
    (target : Nat)
    (ops : List (Operation Unit Search))
    (hops : ∀ op ∈ ops, op.Feeds) :
    ∃ m, blueprint.build = .ok m ∧
      Equipped m (m.performAll ops (m.newInstance () { target := target })) := by
  obtain ⟨stage, s, hi, hs⟩ := exists_fed_of_performAll target hops
  have hstacked := stacked_of_performAll target hops
  rw [hi.data_eq] at hstacked
  exact ⟨machine, build_blueprint, hi.equipped hs hstacked⟩

/-- The number 27 comes while 2 is on the stack. -/
def numberAmidQuery : List (Operation Unit Search) :=
  [.step, .step, .inject "27"]

theorem equipped_numberAmidQuery :
    (∀ op ∈ numberAmidQuery, op.Feeds) ∧
    ∃ m, blueprint.build = .ok m ∧
      At m (m.performAll numberAmidQuery (m.newInstance () { target := 9 }))
        .nextQueryInCache ∧
      Equipped m (m.performAll numberAmidQuery (m.newInstance () { target := 9 })) := by
  have hops : ∀ op ∈ numberAmidQuery, op.Feeds := by
    simp [numberAmidQuery, Operation.Feeds]
  have hmin : (Search.begin { target := 9 }).pending.min? = some 2 :=
    Std.TreeSet.min?_eq_some_iff_mem_and_forall.2
      ⟨Search.mem_pending_begin.2 (by decide),
        fun n hn => Nat.isLE_compare.2 (Search.mem_pending_begin.1 hn).1⟩
  have hbegin : tick .initMachine { target := 9 } =
      .ok (.addNextProbeToStack, Search.begin { target := 9 }) := rfl
  have hprobe := (Search.leads_probe hmin).2
  have hi := (((standsAt_newInstance _).step hbegin).step hprobe).pass "27"
  refine ⟨hops, ?_⟩
  obtain ⟨m, hm, hequipped⟩ := equipped_of_feeds 9 numberAmidQuery hops
  obtain rfl : machine = m := Except.ok.inj (build_blueprint.symm.trans hm)
  exact ⟨machine, hm, (hi.at_iff _).2 rfl, hequipped⟩

end Collatz
end Flowchart

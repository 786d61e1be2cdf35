import Flowchart.Proofs.Collatz.Search
import Flowchart.Proofs.Rules

/-!
# A search that takes numbers from outside

A number that is passed in is pending from then on, whatever the search is doing.  The
search goes on as if it had always been there: each stage finds on the stack what it
needs.

The chain of 1 ends at once, but a search that is given 1 goes on from there, through 4
and 2 back to 1.  So the length of 1 grows by a lap of three terms, and whatever is
entered from it afterwards has laps too.  That is the only way to a wrong length.
-/

namespace Flowchart

/-- The operations that take a step by its own decision, or pass a text in. -/
def Operation.Feeds {ω D : Type} : Operation ω D → Prop
  | step | inject _ => True
  | _ => False

namespace Collatz

/-- The number that a text stands for, if the search takes it. -/
def number? (text : String) : Option Nat :=
  (Text.readNumeral Text.maxWord (Text.trim text.toList)).toOption

/-- The number that an operation passes in. -/
def passed? : Operation Unit Search → Option Nat
  | .inject text => number? text
  | _ => none

/-! ### Operations and stages -/

section StandsAt

variable {i : Instance Unit Search} {stage next : Stage} {s s' : Search}

/-- A step goes where `tick` says.  At the last stage it is refused. -/
theorem StandsAt.step
    (hi : StandsAt i stage s)
    (htick : tick stage s = .ok (next, s')) :
    StandsAt (machine.perform .step i).1 next s' := by
  by_cases hopen : stage = .calcComplete
  · subst hopen
    cases htick
    have hrow : machine.row? i.current = some .terminal := by
      rw [hi.current_eq, row?_machine]
      rfl
    have hrefused : (machine.step i).1 = i := by
      simp [Machine.step, Machine.advance, hrow]
    simpa only [Machine.perform, hrefused] using hi
  · obtain ⟨j, source, branch, hstep, hj⟩ := stepsTo_of_tick hi hopen htick
    simpa only [Machine.perform, hstep] using hj

/-- A text that is passed in changes the pending numbers only. -/
theorem StandsAt.pass
    (hi : StandsAt i stage s)
    (text : String) :
    StandsAt (machine.perform (.inject text) i).1 stage
      { s with pending := (number? text).elim s.pending s.pending.insert } := by
  have hhook : machine.hooks.inject = inject := rfl
  obtain ⟨hcurrent, rfl, hrules⟩ := hi
  simp only [Machine.perform, Machine.inject, hhook, inject, number?]
  cases Text.readNumeral Text.maxWord (Text.trim text.toList) <;>
    exact ⟨hcurrent, rfl, hrules⟩

/-- The stage after a number of ticks, and the data there. -/
def ticks : Nat → Stage × Search → Except Failure (Stage × Search)
  | 0, a => .ok a
  | count + 1, a => tick a.1 a.2 >>= ticks count

theorem StandsAt.steps
    {count : Nat}
    {a b : Stage × Search}
    (hi : StandsAt i a.1 a.2)
    (hticks : ticks count a = .ok b) :
    StandsAt (machine.performAll (List.replicate count .step) i) b.1 b.2 := by
  induction count generalizing i a with
  | zero =>
      cases hticks
      exact hi
  | succ count ih =>
      obtain ⟨c, htick, hrest⟩ := Blueprint.bind_eq_ok_iff.1 hticks
      rw [List.replicate_succ]
      exact ih (hi.step htick) hrest

end StandsAt

namespace Search

variable {s : Search} {numbers : List Nat} {q terms : Nat} {rest : List Nat}

/-! ### Lengths with laps -/

/-- Every length is that of a chain, with some laps from 1 to 1.  There are none as long
as the length of 1 has none. -/
structure Traced (s : Search) : Prop where
  laps : ∀ n length, s.lengths[n]? = some length →
    ∃ terms laps, CountsTerms n terms ∧ length = terms + 3 * laps
  right : (∀ length, s.lengths[1]? = some length → length = 1) →
    ∀ n length, s.lengths[n]? = some length → CountsTerms n length

/-- The number 1 waits nowhere, and its length, if known, is that of its chain. -/
structure Untouched (s : Search) : Prop where
  pending : 1 ∉ s.pending
  queries : 1 ∉ s.queries
  length : ∀ length, s.lengths[1]? = some length → length = 1

theorem falls_four :
    Falls 4 3 :=
  .more (by omega) (.more (show 1 < next 4 by decide) .one)

/-- One term in front of a chain, with the laps behind it.  In front of the chain of 4
the number 1 makes a lap of its own. -/
theorem exists_laps_of_next
    {length : Nat}
    (hnext : Falls (next q) terms)
    {laps : Nat}
    (hlength : length = terms + 3 * laps) :
    ∃ terms laps, CountsTerms q terms ∧ length + 1 = terms + 3 * laps := by
  rcases Nat.lt_trichotomy q 1 with hzero | rfl | hlt
  · obtain rfl : q = 0 := by omega
    exact absurd hnext.start_pos (by decide)
  · obtain rfl : terms = 3 := hnext.unique falls_four
    exact ⟨1, laps + 1, Falls.one.countsTerms, by omega⟩
  · exact ⟨terms + 1, laps, (Falls.more hlt hnext).countsTerms, by omega⟩

namespace Traced

/-- The length of a number may be entered once that of its successor is known. -/
theorem enter
    (hs : s.Traced)
    {length : Nat}
    (hnext : s.lengths[next q]? = some length) :
    (s.entered q (length + 1)).Traced := by
  obtain ⟨terms, laps, hterms, hlength⟩ := hs.laps _ _ hnext
  constructor
  · intro n other hn
    rw [lengths_entered] at hn
    split_ifs at hn with hq
    · obtain rfl := hq
      obtain rfl := Option.some.inj hn
      exact exists_laps_of_next hterms.falls hlength
    · exact hs.laps n other hn
  · intro hone n other hn
    have hne : q ≠ 1 := by
      -- the new length of 1 has a lap
      rintro rfl
      have hbad := hone (length + 1) (by rw [lengths_entered, if_pos rfl])
      have hpos := hterms.falls.terms_pos
      omega
    have hkept : ∀ length, s.lengths[1]? = some length → length = 1 := by
      intro length hlength
      exact hone length (by rw [lengths_entered, if_neg hne, hlength])
    rw [lengths_entered] at hn
    split_ifs at hn with hq
    · obtain rfl := hq
      obtain rfl := Option.some.inj hn
      have hfalls := (hs.right hkept _ _ hnext).falls
      have hpos := hfalls.start_pos
      have hlt : 1 < q := by
        have hzero : q ≠ 0 := by
          rintro rfl
          exact absurd hpos (by decide)
        omega
      exact (Falls.more hlt hfalls).countsTerms
    · exact hs.right hkept n other hn

/-- Only the known lengths count. -/
theorem of_lengths
    {s' : Search}
    (hs : s.Traced)
    (hlengths : s'.lengths = s.lengths) :
    s'.Traced := by
  constructor
  · rw [hlengths]
    exact hs.laps
  · rw [hlengths]
    exact hs.right

end Traced

/-! ### What each stage finds -/

/-- What a stage relies on. -/
def Ready (s : Search) : Stage → Prop
  | .initMachine => s.queries = [] ∧ ∀ n, n ∉ s.lengths
  | .addNextProbeToStack => s.queries = [] ∧ ∃ n, n ∈ s.pending
  | .nextQueryInCache | .pollQueryStack => ∃ q rest, s.queries = q :: rest
  | .addResultToCache => ∃ q rest, s.queries = q :: rest ∧ next q ∈ s.lengths
  | .addQueryToStack => ∃ q rest, s.queries = q :: rest ∧ next q ∉ s.lengths
  | .queryStackEmpty | .calcComplete => True
  | .isNextAboveTarget => s.queries = []

/-- What holds at a stage of a search that was given numbers. -/
structure Fed (numbers : List Nat) (stage : Stage) (s : Search) : Prop where
  ready : s.Ready stage
  begun : stage ≠ .initMachine → 1 ∈ s.lengths
  traced : s.Traced
  untouched : 1 ∉ numbers → s.Untouched

theorem fed_new
    (target : Nat) :
    Fed [] .initMachine { target := target } where
  ready := ⟨rfl, fun n => Std.TreeMap.not_mem_emptyc⟩
  begun := fun hne => absurd rfl hne
  traced := by
    constructor <;> simp
  untouched := fun _ => ⟨Std.TreeSet.not_mem_emptyc, by simp, by simp⟩

/-- A search that goes on without a change of its lengths. -/
theorem Fed.of_lengths
    {stage stage' : Stage}
    {s' : Search}
    (hs : Fed numbers stage s)
    (hopen : stage ≠ .initMachine)
    (hlengths : s'.lengths = s.lengths)
    (hready : s'.Ready stage')
    (huntouched : s.Untouched → 1 ∉ s'.pending ∧ 1 ∉ s'.queries) :
    Fed numbers stage' s' where
  ready := hready
  begun := fun _ => hlengths ▸ hs.begun hopen
  traced := hs.traced.of_lengths hlengths
  untouched := by
    intro hnumbers
    have hs' := hs.untouched hnumbers
    obtain ⟨hpending, hqueries⟩ := huntouched hs'
    exact ⟨hpending, hqueries, hlengths ▸ hs'.length⟩

theorem lengths_begin
    (hempty : ∀ n, n ∉ s.lengths)
    (n length : Nat) :
    s.begin.lengths[n]? = some length ↔ n = 1 ∧ length = 1 := by
  have hnone : s.lengths[n]? = none := Std.TreeMap.getElem?_eq_none (hempty n)
  simp only [begin, Std.TreeMap.getElem?_insert, hnone, Nat.compare_eq_eq]
  split_ifs with hone
  · simp [← hone, eq_comm]
  · simp [Ne.symm hone]

theorem Fed.begin
    (hs : Fed numbers .initMachine s) :
    Fed numbers .addNextProbeToStack s.begin where
  ready := by
    refine ⟨hs.ready.1, 2, ?_⟩
    rw [Search.begin, mem_foldl_insert, List.mem_range'_1]
    omega
  begun := by
    intro _
    simp [Search.begin]
  traced := by
    constructor
    · intro n length hlength
      obtain ⟨rfl, rfl⟩ := (lengths_begin hs.ready.2 n length).1 hlength
      exact ⟨1, 0, Falls.one.countsTerms, rfl⟩
    · intro _ n length hlength
      obtain ⟨rfl, rfl⟩ := (lengths_begin hs.ready.2 n length).1 hlength
      exact Falls.one.countsTerms
  untouched := by
    intro hnumbers
    obtain ⟨hpending, hqueries, -⟩ := hs.untouched hnumbers
    refine ⟨?_, hqueries, ?_⟩
    · rw [Search.begin, mem_foldl_insert, List.mem_range'_1]
      rintro (hrange | hmem)
      · omega
      · exact hpending hmem
    · intro length hlength
      exact ((lengths_begin hs.ready.2 1 length).1 hlength).2

theorem exists_min?_pending
    (h : ∃ n, n ∈ s.pending) :
    ∃ q, s.pending.min? = some q := by
  obtain ⟨n, hn⟩ := h
  cases hmin : s.pending.min? with
  | none =>
      have hempty := Std.TreeSet.min?_eq_none_iff.1 hmin
      exact absurd hn (Std.TreeSet.isEmpty_iff_forall_not_mem.1 hempty n)
  | some q =>
      exact ⟨q, rfl⟩

/-- The least pending number goes on the stack. -/
theorem Fed.probe
    (hs : Fed numbers .addNextProbeToStack s)
    (hmin : s.pending.min? = some q) :
    Fed numbers .nextQueryInCache { s with queries := s.queries ++ [q] } := by
  obtain ⟨hqueries, -⟩ := hs.ready
  refine hs.of_lengths (by simp) rfl ⟨q, [], by simp [hqueries]⟩ ?_
  intro huntouched
  have hne : 1 ≠ q := fun hone => huntouched.pending (hone ▸ (min?_pending hmin).1)
  exact ⟨huntouched.pending, by simp [hqueries, hne]⟩

/-- The top number gets its length. -/
theorem Fed.enter
    (hs : Fed numbers .addResultToCache s)
    (hqueries : s.queries = q :: rest)
    {length : Nat}
    (hlength : s.lengths[next q]? = some length) :
    Fed numbers .pollQueryStack (s.entered q (length + 1)) where
  ready := ⟨q, rest, hqueries⟩
  begun := fun _ => (mem_lengths_entered _ _ _ _).2 (.inr (hs.begun (by simp)))
  traced := hs.traced.enter hlength
  untouched := by
    intro hnumbers
    obtain ⟨hpending, hwaiting, hone⟩ := hs.untouched hnumbers
    have hne : q ≠ 1 := by
      rintro rfl
      exact hwaiting (by simp [hqueries])
    refine ⟨?_, hwaiting, ?_⟩
    · rw [mem_pending_entered]
      exact fun h => hpending h.2
    · intro length hlength
      rw [lengths_entered, if_neg hne] at hlength
      exact hone length hlength

/-- The successor of the top number goes on the stack.  It is not 1, which has a
length. -/
theorem Fed.push
    (hs : Fed numbers .addQueryToStack s)
    (hunknown : next q ∉ s.lengths) :
    Fed numbers .nextQueryInCache { s with queries := next q :: s.queries } := by
  refine hs.of_lengths (by simp) rfl ⟨_, _, rfl⟩ ?_
  intro huntouched
  have hne : 1 ≠ next q := fun hone => hunknown (hone ▸ hs.begun (by simp))
  exact ⟨huntouched.pending, by simp [hne, huntouched.queries]⟩

/-- Each stage finds what it needs and leaves what the next one needs. -/
theorem Fed.tick
    {stage : Stage}
    (hs : Fed numbers stage s) :
    ∃ next s', tick stage s = .ok (next, s') ∧ Fed numbers next s' := by
  have hsame : s.Untouched → 1 ∉ s.pending ∧ 1 ∉ s.queries :=
    fun h => ⟨h.pending, h.queries⟩
  cases stage with
  | initMachine =>
      exact ⟨_, _, rfl, hs.begin⟩
  | addNextProbeToStack =>
      obtain ⟨q, hmin⟩ := exists_min?_pending hs.ready.2
      exact ⟨_, _, (leads_probe hmin).2, hs.probe hmin⟩
  | nextQueryInCache =>
      obtain ⟨q, rest, hqueries⟩ := hs.ready
      refine ⟨_, _, (leads_ask hqueries).2, hs.of_lengths (by simp) rfl ?_ hsame⟩
      split_ifs with hknown
      · exact ⟨q, rest, hqueries, hknown⟩
      · exact ⟨q, rest, hqueries, hknown⟩
  | addResultToCache =>
      obtain ⟨q, rest, hqueries, hknown⟩ := hs.ready
      obtain ⟨length, hlength⟩ :=
        Option.isSome_iff_exists.1 (Std.TreeMap.mem_iff_isSome_getElem?.1 hknown)
      exact ⟨_, _, (leads_enter hqueries hlength).2, hs.enter hqueries hlength⟩
  | addQueryToStack =>
      obtain ⟨q, rest, hqueries, hunknown⟩ := hs.ready
      exact ⟨_, _, (leads_push hqueries).2, hs.push hunknown⟩
  | pollQueryStack =>
      refine ⟨_, _, rfl, hs.of_lengths (by simp) rfl trivial ?_⟩
      exact fun h => ⟨h.pending, fun hmem => h.queries (List.mem_of_mem_tail hmem)⟩
  | queryStackEmpty =>
      refine ⟨_, _, leads_queryStackEmpty.2, hs.of_lengths (by simp) rfl ?_ hsame⟩
      cases hqueries : s.queries with
      | nil => simp [isStackEmpty, hqueries, Ready]
      | cons q rest => simp [isStackEmpty, hqueries, Ready]
  | isNextAboveTarget =>
      refine ⟨_, _, leads_isNextAboveTarget.2, hs.of_lengths (by simp) rfl ?_ hsame⟩
      cases hreached : s.isTargetReached with
      | true =>
          exact trivial
      | false =>
          obtain ⟨q, hmin, -⟩ := exists_min?_of_not_reached hreached
          exact ⟨hs.ready, q, (min?_pending hmin).1⟩
  | calcComplete =>
      exact ⟨_, _, rfl, hs⟩

/-- A number may be passed in at every stage. -/
theorem Fed.pass
    {stage : Stage}
    (hs : Fed numbers stage s)
    (text : String) :
    Fed (numbers ++ (number? text).toList) stage
      { s with pending := (number? text).elim s.pending s.pending.insert } := by
  have hmem : ∀ n, n ∈ (number? text).elim s.pending s.pending.insert ↔
      n ∈ (number? text).toList ∨ n ∈ s.pending := by
    intro n
    cases number? text with
    | none => simp
    | some m => simp [Std.TreeSet.mem_insert, eq_comm (a := m)]
  refine ⟨?_, hs.begun, hs.traced.of_lengths rfl, ?_⟩
  · cases stage with
    | addNextProbeToStack =>
        obtain ⟨hqueries, n, hn⟩ := hs.ready
        exact ⟨hqueries, n, (hmem n).2 (.inr hn)⟩
    | _ => exact hs.ready
  · intro hnumbers
    rw [List.mem_append, not_or] at hnumbers
    obtain ⟨hpending, hqueries, hone⟩ := hs.untouched hnumbers.1
    refine ⟨?_, hqueries, hone⟩
    rw [hmem, not_or]
    exact ⟨hnumbers.2, hpending⟩

/-- The lengths in a search that was given numbers.  A length may have laps, but only
after the length of 1 has one, and that only after 1 was given. -/
structure TracedFrom (numbers : List Nat) (s : Search) : Prop extends s.Traced where
  untouched : 1 ∉ numbers → ∀ length, s.lengths[1]? = some length → length = 1

end Search

open Search (Fed)

/-- Operations one after the other lead a search from stage to stage. -/
theorem exists_fed_of_performAll
    (target : Nat)
    {ops : List (Operation Unit Search)}
    (hops : ∀ op ∈ ops, op.Feeds) :
    ∃ stage s,
      StandsAt (machine.performAll ops
        (machine.newInstance () { target := target })) stage s ∧
      Fed (ops.filterMap passed?) stage s := by
  induction ops using List.reverseRecOn with
  | nil =>
      exact ⟨_, _, standsAt_newInstance _, Search.fed_new target⟩
  | append_singleton ops op ih =>
      obtain ⟨stage, s, hi, hs⟩ := ih fun op hop => hops op (by simp [hop])
      have hop := hops op (by simp)
      have hpassed : [op].filterMap passed? = (passed? op).toList := by
        cases h : passed? op <;> simp [h]
      rw [Machine.performAll, List.foldl_concat, List.filterMap_append, hpassed]
      cases op with
      | step =>
          obtain ⟨next, s', htick, hs'⟩ := hs.tick
          exact ⟨next, s', hi.step htick, (List.append_nil _).symm ▸ hs'⟩
      | inject text =>
          exact ⟨stage, _, hi.pass text, hs.pass text⟩
      | _ =>
          exact hop.elim

/-- Numbers from outside leave every length that of its chain, but for laps from 1 to 1.
Without laps in the length of 1 there are none, and it has none unless 1 was given. -/
theorem lengths_traced
    (target : Nat)
    (ops : List (Operation Unit Search))
    (hops : ∀ op ∈ ops, op.Feeds) :
    ∃ m, blueprint.build = .ok m ∧
      (m.performAll ops (m.newInstance () { target := target })).data.TracedFrom
        (ops.filterMap passed?) := by
  obtain ⟨stage, s, hi, hs⟩ := exists_fed_of_performAll target hops
  refine ⟨machine, build_blueprint, ?_⟩
  rw [hi.data_eq]
  exact ⟨hs.traced, fun hnumbers => (hs.untouched hnumbers).length⟩

/-- Two numbers, one before the first step and one after it. -/
def twoNumbers : List (Operation Unit Search) :=
  [.inject "27", .step, .inject " 0"]

/-- Neither number is 1, so the length of 1 that is known by then has no lap. -/
theorem lengths_traced_twoNumbers :
    (∀ op ∈ twoNumbers, op.Feeds) ∧
    1 ∉ twoNumbers.filterMap passed? ∧
    ∃ m, blueprint.build = .ok m ∧
      (m.performAll twoNumbers (m.newInstance () { target := 9 })).data.TracedFrom
        (twoNumbers.filterMap passed?) ∧
      (m.performAll twoNumbers (m.newInstance () { target := 9 })).data.lengths[1]? =
        some 1 := by
  have hops : ∀ op ∈ twoNumbers, op.Feeds := by
    simp [twoNumbers, Operation.Feeds]
  refine ⟨hops, by decide +kernel, ?_⟩
  obtain ⟨m, hm, htraced⟩ := lengths_traced 9 twoNumbers hops
  obtain rfl : machine = m := Except.ok.inj (build_blueprint.symm.trans hm)
  exact ⟨machine, hm, htraced, by decide +kernel⟩

/-- Asked for the length of 1, a search that knows no other goes through 4 and 2 back to 1
and enters the lap. -/
theorem lap_of_one
    (target : Nat)
    (pending : Std.TreeSet Nat) :
    ∃ b, ticks 14 (.nextQueryInCache,
      { target, pending, lengths := Std.TreeMap.insert {} 1 1, queries := [1] }) = .ok b ∧
      b.2.lengths[1]? = some 4 :=
  ⟨_, rfl, rfl⟩

/-- The number 1, and steps until it has a length of its own. -/
def oneAndSteps : List (Operation Unit Search) :=
  [.inject "1", .step, .step] ++ List.replicate 14 .step

/-- Given 1 before it begins, a search up to 1 enters 4 as the length of 1. -/
theorem length_of_one_with_lap :
    (∀ op ∈ oneAndSteps, op.Feeds) ∧
    ∃ m, blueprint.build = .ok m ∧
      (m.performAll oneAndSteps (m.newInstance () { target := 1 })).data.lengths[1]? =
        some 4 ∧
      CountsTerms 1 1 ∧ ¬ CountsTerms 1 4 := by
  have hops : ∀ op ∈ oneAndSteps, op.Feeds := by
    simp [oneAndSteps, Operation.Feeds]
  have hcounts : CountsTerms 1 1 := Falls.one.countsTerms
  refine ⟨hops, machine, build_blueprint, ?_, hcounts, ?_⟩
  · let given : Search := { target := 1, pending := Std.TreeSet.insert {} 1 }
    have hmin : given.begin.pending.min? = some 1 := by
      refine Std.TreeSet.min?_eq_some_iff_mem_and_forall.2 ⟨?_, ?_⟩
      · simp [given, Search.begin, Search.mem_foldl_insert]
      · intro n hn
        rw [Search.begin, Search.mem_foldl_insert, List.mem_range'_1] at hn
        have hone : n ∈ given.pending → 1 = n := by
          simp only [given, Std.TreeSet.mem_insert, Nat.compare_eq_eq,
            Std.TreeSet.not_mem_emptyc, or_false]
          exact id
        have hle : 1 ≤ n := by
          rcases hn with hrange | hmem
          · omega
          · exact Nat.le_of_eq (hone hmem)
        exact Nat.isLE_compare.2 hle
    have hgiven := (standsAt_newInstance { target := 1 }).pass "1"
    have hbegin : tick .initMachine given = .ok (.addNextProbeToStack, given.begin) := rfl
    have hbegun := hgiven.step hbegin
    have hasked := hbegun.step (Search.leads_probe hmin).2
    obtain ⟨b, hlap, hlength⟩ := lap_of_one 1 given.begin.pending
    have hend := hasked.steps hlap
    rw [oneAndSteps, Machine.performAll, List.foldl_append]
    rw [← hend.data_eq] at hlength
    exact hlength
  · intro hbad
    exact absurd (hcounts.falls.unique hbad.falls) (by omega)

end Collatz
end Flowchart

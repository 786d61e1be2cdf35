import Flowchart.Proofs.Failure
import Flowchart.Proofs.Names

/-!
# Integrity of built machines

The parts of a built machine line up with the declarations of its blueprint, and an
instance that operations lead to never leaves them.  So what stands in for a missing
part is never used: every state has a name and a row, every state that can be left
has a handler of its kind, and what a step reports as the failure of a handler is the
answer of the function that was registered for the state.

Whatever the machine says of a state is a declared name.  For most texts this follows
from the current state alone.  Only the quotas keep states from one operation to the
next, so they have an invariant of their own.
-/

namespace Flowchart

variable {ω D : Type}

/-- The states that the result of a step mentions. -/
def StepResult.states : StepResult → List StateId
  | advanced source target _ => [source, target]
  | halted state => [state]

/-- The states that an error mentions have the given names.  A text that was asked
for or recorded counts for nothing, and a goal may be no state. -/
def RunError.MentionsOnly (names : List String) : RunError → Prop
  | terminalStep _ state => state ∈ names
  | targetUnreachable target halted =>
      (target ∈ names ∨ (∃ count, target = "step " ++ toString (count : Nat)) ∨
        target = "predicate") ∧ halted ∈ names
  | unexpectedTerminal expected halted => expected ∈ names ∧ halted ∈ names
  | unexpectedState expected actual => expected ∈ names ∧ actual ∈ names
  | handlerFailed state _ => state ∈ names
  | replayDiverged _ _ actual => actual ∈ names
  | visitLimitExceeded violation => violation.state ∈ names
  | visitCountMismatch violations => ∀ violation ∈ violations, violation.state ∈ names
  | unknownState _ _ | stepCountPassed _ _ | notParked _ _ | build _ => True

namespace Machine

variable {m : Machine ω D}

/-- The states that a step mentions are states of the machine. -/
theorem Advance.states_lt
    (hm : m.WellFormed)
    {forced : Option Bool}
    {i j : Instance ω D}
    {result : StepResult}
    (h : m.Advance forced i j (.ok result))
    (hlt : i.current < m.states.length) :
    ∀ s ∈ result.states, s < m.states.length := by
  rcases h.halts_or_commits with
    ⟨-, -, rfl, rfl⟩ | ⟨_, _, _, _, -, -, hedge, rfl, rfl⟩
  · simpa [StepResult.states] using hlt
  · simpa [StepResult.states] using ⟨hlt, hedge.target_lt hm⟩

/-! ### Quotas -/

/-- Every quota is about a state of the machine. -/
def QuotasDeclared (m : Machine ω D) (i : Instance ω D) : Prop :=
  ∀ entry ∈ i.rules.quotas.entries, entry.1 < m.states.length

end Machine

namespace Blueprint

variable {b : Blueprint ω D} {m : Machine ω D}

theorem quotasDeclared_of_reachable
    (hbuild : b.build = .ok m)
    {i : Instance ω D}
    (hi : m.Reachable i) :
    m.QuotasDeclared i := by
  apply hi.rules_invariant
    (P := fun rules => ∀ entry ∈ rules.quotas.entries, entry.1 < m.states.length)
  · intro entry hentry
    cases hentry
  · intro rules rules' hedit hdeclared
    cases hedit with
    | keep | cap =>
        exact hdeclared
    | quota hid visits =>
        intro entry hentry
        rcases Entries.mem_insert hentry with rfl | hentry
        · exact resolve_lt_of_build hbuild hid
        · exact hdeclared entry hentry
    | clear =>
        intro entry hentry
        cases hentry

/-- A log mentions declared states only. -/
theorem records_named_of_reachable
    (hbuild : b.build = .ok m)
    {i : Instance ω D}
    (hi : m.Reachable i) :
    ∀ r ∈ i.log.records.toList, r.source ∈ b.names ∧ r.target ∈ b.names := by
  have hm := wellFormed_of_build hbuild
  apply hi.invariant
    (P := fun i => ∀ r ∈ i.log.records.toList, r.source ∈ b.names ∧ r.target ∈ b.names)
  · intro w d r hr
    cases hr
  · intro i j hchange hnamed
    cases hchange with
    | effect | rules =>
        exact hnamed
    | restart =>
        intro r hr
        cases hr
    | commit hcap hedge =>
        cases hrecord : m.settings.recordTransitions with
        | false =>
            rwa [Machine.commit_log_of_not_recording _ _ _ _ hrecord]
        | true =>
            rw [Machine.commit_log_of_recording _ _ _ _ hrecord, Log.push,
              Array.toList_push]
            intro r hr
            rcases List.mem_append.1 hr with hr | hr
            · exact hnamed r hr
            · rw [List.mem_singleton.1 hr]
              exact ⟨label_mem_names_of_build hbuild hedge.source_lt,
                label_mem_names_of_build hbuild (hedge.target_lt hm)⟩

/-! ### What errors mention -/

theorem mentionsOnly_of_refuses
    (hbuild : b.build = .ok m)
    {i : Instance ω D}
    (hi : m.Reachable i)
    {e : RunError}
    (h : m.Refuses i e) :
    e.MentionsOnly b.names := by
  have hcurrent : m.label i.current ∈ b.names :=
    label_mem_names_of_build hbuild (hi.current_lt (wellFormed_of_build hbuild))
  cases h with
  | unknown hunknown =>
      rw [Machine.resolve_error hunknown]
      exact trivial
  | passed =>
      exact trivial
  | unreachable hgoal =>
      refine ⟨?_, hcurrent⟩
      cases hgoal with
      | state hid =>
          exact .inl (label_mem_names_of_build hbuild (resolve_lt_of_build hbuild hid))
      | count count =>
          exact .inr (.inl ⟨count, rfl⟩)
      | condition =>
          exact .inr (.inr rfl)
  | unexpected hid =>
      exact ⟨label_mem_names_of_build hbuild (resolve_lt_of_build hbuild hid), hcurrent⟩
  | mismatch hquotas =>
      rw [Machine.checkQuotas_error hquotas]
      intro violation hviolation
      obtain ⟨⟨id, quota⟩, hentry, hunmet⟩ := List.mem_filterMap.1 hviolation
      have hlt := quotasDeclared_of_reachable hbuild hi _ hentry
      dsimp only at hunmet
      split_ifs at hunmet
      cases hunmet
      exact label_mem_names_of_build hbuild hlt
  | diverged =>
      exact hcurrent

theorem mentionsOnly_of_advance
    (hbuild : b.build = .ok m)
    {i j : Instance ω D}
    (hi : m.Reachable i)
    {forced : Option Bool}
    {e : RunError}
    (h : m.advance forced i = (j, .error e)) :
    e.MentionsOnly b.names := by
  have hm := wellFormed_of_build hbuild
  have hcurrent : m.label i.current ∈ b.names :=
    label_mem_names_of_build hbuild (hi.current_lt hm)
  rcases (Machine.Advance.of_eq h).error_cases hm with
    rfl | ⟨_, _, rfl⟩ | ⟨_, _, -, -, -, rfl⟩ <;>
    exact hcurrent

theorem mentionsOnly_of_requireState
    (hbuild : b.build = .ok m)
    {i : Instance ω D}
    (hi : m.Reachable i)
    {text : String}
    {e : RunError}
    (h : m.requireState text i = .error e) :
    e.MentionsOnly b.names := by
  unfold Machine.requireState at h
  cases hid : m.resolve text with
  | error unknown =>
      rw [hid] at h
      cases h
      rw [Machine.resolve_error hid]
      exact trivial
  | ok id =>
      simp only [hid, bind, Except.bind] at h
      split_ifs at h
      · cases h
      · cases h
        exact ⟨label_mem_names_of_build hbuild (resolve_lt_of_build hbuild hid),
          label_mem_names_of_build hbuild (hi.current_lt (wellFormed_of_build hbuild))⟩

theorem mentionsOnly_of_perform
    (hbuild : b.build = .ok m)
    {i : Instance ω D}
    (hi : m.Reachable i)
    {op : Operation ω D}
    {e : RunError}
    (h : (m.perform op i).2 = some e) :
    e.MentionsOnly b.names := by
  rcases Machine.perform_error_origin hi h with
    ⟨k, hk, hrefuses⟩ | ⟨k, forced, j, hk, hfailed⟩ | ⟨_, _, -, rfl, -⟩
  · exact mentionsOnly_of_refuses hbuild hk hrefuses
  · exact mentionsOnly_of_advance hbuild hk hfailed
  · exact label_mem_names_of_build hbuild (hi.current_lt (wellFormed_of_build hbuild))

/-! ### Machines and their instances -/

/-- The parts of a machine line up with the declarations of a blueprint. -/
structure Realizes (m : Machine ω D) (b : Blueprint ω D) : Prop where
  length_states : m.states.length = b.declarations.length
  length_table : m.table.length = b.declarations.length
  length_handlers : (m.states.map State.handler).length = b.declarations.length
  size_directory : m.directory.size = b.declarations.length
  entry : ∀ (p : Nat) (d : Declaration), b.declarations[p]? = some d →
    m.directory.entries[p]? = some ⟨acronym d.name, d.name⟩
  state : ∀ (p : Nat) (d : Declaration), b.declarations[p]? = some d →
    ∃ s : State ω D, m.states[p]? = some s ∧
      s.name = d.name ∧ s.index = p ∧ s.code = d.code
  start_lt : m.start < b.declarations.length
  target_lt : ∀ row ∈ m.table, ∀ target ∈ row.targets, target < b.declarations.length
  handler_iff : ∀ p row, m.row? p = some row →
    (m.handler? p = none ↔ row = .terminal) ∧
    ∀ h, m.handler? p = some h → h.kind = row.kind
  name_ne_tag : ∀ name ∈ b.names, ∀ id, name ≠ StateId.tag id
  targets : ∀ (p : Nat) (name text : String), b.names[p]? = some name →
    text = acronym name ∨ text = name ∧ trimmed name = name →
    ∃ row targets, m.row? p = some row ∧ m.targetsOf? text = some targets ∧
      targets.map some = row.targets.map m.nameOf?

/-- The function that was registered for the current state answers with a failure. -/
structure ClientFails (b : Blueprint ω D) (m : Machine ω D) (i : Instance ω D)
    (state : String) (failure : Failure) : Prop where
  name : m.nameOf? i.current = some state
  answered : ∃ h, (handlerName state, h) ∈ b.handlers ∧
    m.kind? i.current = some h.kind ∧ h.Fails i.surroundings i.data failure

/-- An instance that never leaves the declared states, and says nothing but what they
and their handlers give. -/
structure Intact (b : Blueprint ω D) (m : Machine ω D) (i : Instance ω D) : Prop where
  current_lt : i.current < b.declarations.length
  row : ∃ row, m.row? i.current = some row
  results : ∀ forced j result, m.advance forced i = (j, .ok result) →
    ∀ s ∈ result.states, m.label s ∈ b.names
  records : ∀ r ∈ i.log.records.toList, r.source ∈ b.names ∧ r.target ∈ b.names
  errors : ∀ op e, (m.perform op i).2 = some e → e.MentionsOnly b.names
  requirements : ∀ text e, m.requireState text i = .error e → e.MentionsOnly b.names
  step_failures : ∀ forced j state failure,
    m.advance forced i = (j, .error (.handlerFailed state failure)) →
    ClientFails b m i state failure
  failures : ∀ op state failure,
    (m.perform op i).2 = some (.handlerFailed state failure) →
    (∃ k, m.Reachable k ∧ ClientFails b m k state failure) ∨
    ∃ input, op = .inject input ∧ m.nameOf? i.current = some state ∧
      (m.hooks.inject state input i.surroundings i.data).2.2 = .error failure

theorem realizes_of_build
    (hbuild : b.build = .ok m) :
    Realizes m b := by
  have hm := wellFormed_of_build hbuild
  have hlen := length_states_of_build hbuild
  have hdirectory : m.directory = Directory.ofEntries b.names := by
    obtain ⟨-, -, -, rows, start, -, -, -, rfl⟩ := (build_eq_ok_iff b m).1 hbuild
    rfl
  exact {
    length_states := hlen
    length_table := by simpa [Machine.table] using hlen
    length_handlers := by simpa using hlen
    size_directory := by simp [hdirectory, Directory.size, Directory.ofEntries, names]
    entry := by
      intro p d hd
      simp [hdirectory, Directory.ofEntries, Directory.entryOf, names, hd]
    state := by
      intro p d hd
      obtain ⟨row, -, hs⟩ := state_of_build hbuild hd
      exact ⟨_, hs, rfl, rfl, rfl⟩
    start_lt := by
      rw [← hlen]
      exact hm.start_lt
    target_lt := by
      intro row hrow target htarget
      obtain ⟨s, hs, rfl⟩ := List.mem_map.1 hrow
      rw [← hlen]
      exact hm.target_lt s hs target htarget
    handler_iff := fun _ _ hrow => hm.handler_iff hrow
    name_ne_tag := fun _ hname id => name_ne_tag_of_build hbuild hname id
    targets := fun _ _ _ hname htext =>
      targetsOf?_of_build hbuild (idOf?_eq_some_of_build hbuild hname htext) }

theorem clientFails_of_advance
    (hbuild : b.build = .ok m)
    {i j : Instance ω D}
    (hi : m.Reachable i)
    {forced : Option Bool}
    {state : String}
    {failure : Failure}
    (h : m.advance forced i = (j, .error (.handlerFailed state failure))) :
    ClientFails b m i state failure := by
  have hm := wellFormed_of_build hbuild
  have hname := m.nameOf?_of_lt (hi.current_lt hm)
  rcases (Machine.Advance.of_eq h).error_cases hm with
    he | ⟨_, _, he⟩ | ⟨handler, _, hh, hkind, hfails, he⟩
  · cases he
  · cases he
  · cases he
    exact ⟨hname, handler, registered_of_build hbuild hh, hkind, hfails⟩

theorem intact_of_reachable
    (hbuild : b.build = .ok m)
    {i : Instance ω D}
    (hi : m.Reachable i) :
    Intact b m i := by
  have hm := wellFormed_of_build hbuild
  have hlt := hi.current_lt hm
  exact {
    current_lt := by rwa [← length_states_of_build hbuild]
    row := ⟨m.states[i.current].row, by simp [Machine.row?, hlt]⟩
    results := by
      intro forced j result h s hs
      have hs := (Machine.Advance.of_eq h).states_lt hm hlt s hs
      exact label_mem_names_of_build hbuild hs
    records := records_named_of_reachable hbuild hi
    errors := fun _ _ h => mentionsOnly_of_perform hbuild hi h
    requirements := fun _ _ h => mentionsOnly_of_requireState hbuild hi h
    step_failures := fun _ _ _ _ h => clientFails_of_advance hbuild hi h
    failures := by
      intro op state failure h
      rcases Machine.perform_error_origin hi h with
        ⟨k, hk, hrefuses⟩ | ⟨k, forced, j, hk, hfailed⟩ | ⟨input, _, hop, he, hanswer⟩
      · cases hrefuses with
        | unknown hunknown => cases Machine.resolve_error hunknown
        | mismatch hquotas => cases Machine.checkQuotas_error hquotas
      · exact .inl ⟨k, hk, clientFails_of_advance hbuild hk hfailed⟩
      · cases he
        exact .inr ⟨input, hop, m.nameOf?_of_lt hlt, hanswer⟩ }

/-- A built machine realizes its blueprint, and every instance that operations lead to
is intact. -/
theorem integrity_of_build
    (hbuild : b.build = .ok m) :
    Realizes m b ∧ ∀ i, m.Reachable i → Intact b m i :=
  ⟨realizes_of_build hbuild, fun _ hi => intact_of_reachable hbuild hi⟩

/-- The parts of the small machine, the targets of its decision among them, and one of
its instances after a run. -/
theorem integrity_retry :
    retry.build = .ok retryMachine ∧
    Realizes retryMachine retry ∧
    retryMachine.targetsOf? "C" = some ["Done", "Init"] ∧
    (∀ i, retryMachine.Reachable i → Intact retry retryMachine i) ∧
    ∃ i, retryMachine.Reachable i ∧ i.current = 2 ∧ i.log.size = 6 := by
  obtain ⟨hrealizes, hintact⟩ := integrity_of_build build_retry
  exact ⟨build_retry, hrealizes, by decide +kernel, hintact, _,
    .perform (.runToCompletion 10) (.start 0 0), by decide +kernel, by decide +kernel⟩

end Blueprint
end Flowchart

import Flowchart.Proofs.Flow
import Flowchart.Proofs.Integrity
import Flowchart.Proofs.Stopping

/-!
# What a text addresses

Whatever is asked of a state by a text is answered through `idOf?`.  So a text that is
found there speaks of one state in every call, and no call reports it as unknown.  A
text that is not found is unknown to all of them.

A text is trimmed before it is looked up, a declared name is not.  Trimming keeps the
capitals of a name, so it leads to the same state or to none.
-/

namespace Flowchart

variable {ω D : Type}

/-- Trimming takes no capital letter away. -/
theorem acronym_trimmed
    (text : String) :
    acronym (trimmed text) = acronym text := by
  obtain ⟨before, after, hbefore, hafter, htext⟩ :=
    Text.exists_eq_append_trim text.toList
  have hnone : ∀ blanks, Text.AllBlank blanks → blanks.filter Text.isUppercase = [] := by
    intro blanks hblanks
    refine List.filter_eq_nil_iff.2 fun c hc => ?_
    exact Text.not_isUppercase_of_isBlank (hblanks c hc)
  rw [acronym, acronym, htext]
  simp [trimmed, hnone before hbefore, hnone after hafter]

/-- An error that says that there is no state of some name. -/
def RunError.IsUnknownState : RunError → Prop
  | unknownState _ _ => True
  | _ => False

/-- The operations that a text is passed to as that of a state. -/
def Operation.Asks (text : String) : Operation ω D → Prop
  | runToState _ state | runPastState _ state | capVisits state _
  | requireVisits state _ => state = text
  | _ => False

namespace Machine

/-- In every call the text stands for the one state. -/
structure Speaks (m : Machine ω D) (text : String) (id : StateId) : Prop where
  found : m.idOf? text = some id
  kind : ∃ kind, m.kind? id = some kind ∧ m.kindOf? text = some kind
  targets : ∃ row targets, m.row? id = some row ∧ m.targetsOf? text = some targets ∧
    targets.map some = row.targets.map m.nameOf?
  visits : ∀ i, m.Reachable i →
    ∃ count, i.visits[id]? = some count ∧ m.visitsOf? text i = some count
  required : ∀ i, m.requireState text i =
    if id = i.current then .ok ()
    else .error (.unexpectedState (m.label id) (m.label i.current))
  capped : ∀ n i,
    m.capVisits text n i = ({ i with rules := i.rules.setCap id n }, .ok ())
  quota : ∀ n i,
    m.requireVisits text n i = ({ i with rules := i.rules.setQuota id n }, .ok ())
  reached : ∀ bound i, m.runToState bound text i =
    m.driveTo (fun j => j.current = id) (m.unreachable (m.label id)) bound i
  passed : ∀ bound i, m.runPastState bound text i = m.drivePast id bound i
  known : ∀ op, op.Asks text → ∀ i e, (m.perform op i).2 = some e → ¬ e.IsUnknownState

/-- In no call the text stands for a state. -/
structure Unheard (m : Machine ω D) (text : String) : Prop where
  found : m.idOf? text = none
  kind : m.kindOf? text = none
  targets : m.targetsOf? text = none
  visits : ∀ i, m.visitsOf? text i = none
  required : ∀ i, m.requireState text i = .error (.unknownState m.name text)
  refused : ∀ op, op.Asks text →
    ∀ i, m.perform op i = (i, some (.unknownState m.name text))

section Unknown

variable {m : Machine ω D}

/-- No step asks for a state by a text. -/
theorem Advance.not_isUnknownState
    (hm : m.WellFormed)
    {forced : Option Bool}
    {i j : Instance ω D}
    {e : RunError}
    (h : m.Advance forced i j (.error e)) :
    ¬ e.IsUnknownState := by
  rcases h.error_cases hm with rfl | ⟨_, _, rfl⟩ | ⟨_, _, -, -, -, rfl⟩ <;>
    exact not_false

/-- A run whose verdict knows the states it speaks of reports none as unknown. -/
theorem drive_not_isUnknownState
    (hm : m.WellFormed)
    {verdict : Instance ω D → Option (Except RunError Unit)}
    (hjudges : m.Judges verdict)
    (hverdict : ∀ i e, verdict i = some (.error e) → ¬ e.IsUnknownState)
    {bound : Nat}
    {i j : Instance ω D}
    {e : RunError}
    (h : m.drive verdict bound i = (j, .failed e)) :
    ¬ e.IsUnknownState := by
  obtain ⟨count, k, -, -, hends⟩ := exists_steps_of_drive hjudges bound i
  rw [h] at hends
  generalize hending : Ending.failed e = ending at hends
  cases hends with
  | @decided result hdecided =>
      cases result with
      | ok _ =>
          cases hending
      | error _ =>
          cases hending
          exact hverdict _ _ hdecided
  | unfinished =>
      cases hending
  | failed _ hstep =>
      cases hending
      exact (Advance.of_eq hstep).not_isUnknownState hm

theorem runToState_not_isUnknownState
    (hm : m.WellFormed)
    {text : String}
    {id : StateId}
    (hid : m.resolve text = .ok id)
    {bound : Nat}
    {i j : Instance ω D}
    {e : RunError}
    (h : m.runToState bound text i = (j, .failed e)) :
    ¬ e.IsUnknownState := by
  unfold runToState at h
  rw [hid] at h
  refine drive_not_isUnknownState hm (m.judges_goal _ (.state hid)) ?_ h
  intro k e hdecided
  split_ifs at hdecided
  · cases hdecided
  · cases hdecided
    exact not_false

theorem runPastState_not_isUnknownState
    (hm : m.WellFormed)
    {text : String}
    {id : StateId}
    (hid : m.resolve text = .ok id)
    {bound : Nat}
    {i j : Instance ω D}
    {e : RunError}
    (h : m.runPastState bound text i = (j, .failed e)) :
    ¬ e.IsUnknownState := by
  rw [m.runPastState_of_resolve hid] at h
  fun_induction drivePast m id bound i with
  | case1 bound i hcomplete =>
      cases h
      exact not_false
  | case2 i hopen =>
      cases h
  | case3 i hopen bound previous k result hstep hpast =>
      cases h
  | case4 i hopen bound previous k result hstep hpast ih =>
      exact ih h
  | case5 i hopen bound k e hstep =>
      cases h
      exact (Advance.of_eq hstep).not_isUnknownState hm

theorem unheard_of_idOf?
    {text : String}
    (hnone : m.idOf? text = none) :
    m.Unheard text := by
  have hresolve : m.resolve text = .error (.unknownState m.name text) := by
    simp [resolve, hnone]
  exact {
    found := hnone
    kind := by simp [kindOf?, hnone]
    targets := by simp [targetsOf?, hnone]
    visits := by simp [visitsOf?, hnone]
    required := by
      intro i
      simp [requireState, hresolve, bind, Except.bind]
    refused := by
      intro op hop i
      cases op with
      | runToState bound state =>
          cases hop
          simp [perform, runToState, hresolve, Ending.error?]
      | runPastState bound state =>
          cases hop
          simp [perform, runPastState, hresolve, Ending.error?]
      | capVisits state n =>
          cases hop
          simp [perform, capVisits, hresolve, errorOf]
      | requireVisits state n =>
          cases hop
          simp [perform, requireVisits, hresolve, errorOf]
      | _ =>
          exact hop.elim }

end Unknown

end Machine

namespace Blueprint

variable {b : Blueprint ω D} {m : Machine ω D}

theorem speaks_of_idOf?
    (hbuild : b.build = .ok m)
    {text : String}
    {id : StateId}
    (hid : m.idOf? text = some id) :
    m.Speaks text id := by
  have hm := wellFormed_of_build hbuild
  have hresolve := (m.resolve_eq_ok_iff text id).2 hid
  have hlt := resolve_lt_of_build hbuild hresolve
  exact {
    found := hid
    kind := by
      have hkind : m.kind? id = some m.states[id].row.kind := by
        simp [Machine.kind?, Machine.row?, hlt]
      exact ⟨_, hkind, by simp [Machine.kindOf?, hid, hkind]⟩
    targets := targetsOf?_of_build hbuild hid
    visits := by
      intro i hi
      have hlt : id < i.visits.length := by
        rwa [hi.length_visits]
      exact ⟨_, List.getElem?_eq_getElem hlt, by simp [Machine.visitsOf?, hid, hlt]⟩
    required := by
      intro i
      simp [Machine.requireState, hresolve, bind, Except.bind]
      rfl
    capped := by
      intro n i
      simp [Machine.capVisits, hresolve]
    quota := by
      intro n i
      simp [Machine.requireVisits, hresolve]
    reached := by
      intro bound i
      simp [Machine.runToState, hresolve]
    passed := m.runPastState_of_resolve hresolve
    known := by
      intro op hop i e he
      cases op with
      | runToState bound state =>
          cases hop
          exact Machine.runToState_not_isUnknownState hm hresolve
            (Prod.ext rfl (Ending.eq_failed he))
      | runPastState bound state =>
          cases hop
          exact Machine.runPastState_not_isUnknownState hm hresolve
            (Prod.ext rfl (Ending.eq_failed he))
      | capVisits state n =>
          cases hop
          simp [Machine.perform, Machine.capVisits, hresolve, errorOf] at he
      | requireVisits state n =>
          cases hop
          simp [Machine.perform, Machine.requireVisits, hresolve, errorOf] at he
      | _ =>
          exact hop.elim }

/-- The name of a state leads to that state, if its trimmed form does. -/
theorem idOf?_name_eq_some_iff
    (hbuild : b.build = .ok m)
    {id found : StateId}
    {name : String}
    (hname : m.nameOf? id = some name) :
    m.idOf? name = some found ↔ found = id ∧ Addresses (trimmed name) name := by
  obtain ⟨-, -, hnodup, -⟩ := (build_eq_ok_iff b m).1 hbuild
  rw [nameOf?_of_build hbuild] at hname
  rw [idOf?_of_build hbuild, position?_eq_some_iff hnodup]
  constructor
  · rintro ⟨other, hother, haddressed⟩
    -- the capitals of the trimmed name are those of the name and of the state found
    have hacronym : acronym other = acronym name := by
      rw [← acronym_trimmed name]
      exact acronym_eq_of_addresses haddressed (.inr rfl)
    have hfound : found = id :=
      position_unique hnodup hother hname (.inl hacronym) (.inl rfl)
    subst hfound
    cases hother.symm.trans hname
    exact ⟨rfl, haddressed⟩
  · rintro ⟨rfl, haddressed⟩
    exact ⟨name, hname, haddressed⟩

/-- How the states of a machine are addressed.  A name speaks of its state if the state
has its trimmed form as name or acronym, and of no state otherwise. -/
structure Addressing (b : Blueprint ω D) (m : Machine ω D) : Prop where
  acronym_speaks : ∀ id name, m.nameOf? id = some name → m.Speaks (acronym name) id
  name_speaks : ∀ id name, m.nameOf? id = some name → Addresses (trimmed name) name →
    m.Speaks name id
  name_unheard : ∀ id name, m.nameOf? id = some name → ¬ Addresses (trimmed name) name →
    m.Unheard name
  start_found : ∀ name, b.start = some name → ∀ id, m.nameOf? id = some name → m.start = id
  listed : ∀ name, name ∈ m.stateNames ↔ ∃ id, m.nameOf? id = some name
  logged : ∀ i, m.Reachable i → ∀ r ∈ i.log.records.toList,
    r.source ∈ m.stateNames ∧ r.target ∈ m.stateNames

/-- Every state of a built machine is addressed by its acronym, and by its name if that
has no blanks around.  The builder finds its start by either. -/
theorem addressing_of_build
    (hbuild : b.build = .ok m) :
    Addressing b m where
  acronym_speaks := by
    intro id name hname
    rw [nameOf?_of_build hbuild] at hname
    exact speaks_of_idOf? hbuild (idOf?_eq_some_of_build hbuild hname (.inl rfl))
  name_speaks := by
    intro id name hname haddressed
    exact speaks_of_idOf? hbuild
      ((idOf?_name_eq_some_iff hbuild hname).2 ⟨rfl, haddressed⟩)
  name_unheard := by
    intro id name hname haddressed
    apply Machine.unheard_of_idOf?
    refine Option.eq_none_iff_forall_ne_some.2 fun found hfound => haddressed ?_
    exact ((idOf?_name_eq_some_iff hbuild hname).1 hfound).2
  start_found := by
    intro name hstart id hname
    obtain ⟨-, -, hnodup, rows, start, -, hfound, -, rfl⟩ := (build_eq_ok_iff b m).1 hbuild
    rw [nameOf?_of_build hbuild] at hname
    simp only [start?, hstart] at hfound
    exact Option.some.inj (hfound.symm.trans
      ((position?_eq_some_iff hnodup name id).2 ⟨name, hname, .inr rfl⟩))
  listed := by
    intro name
    simp only [stateNames_of_build hbuild, nameOf?_of_build hbuild, List.mem_iff_getElem?]
  logged := by
    intro i hi
    rw [stateNames_of_build hbuild]
    exact records_named_of_reachable hbuild hi

/-! ### Names with blanks around -/

/-- A machine whose names begin with a blank.  It begins in the second state, which is
given by its name. -/
def padded : Blueprint Unit Unit where
  name := "Padded"
  declarations := [⟨" A", ""⟩, ⟨" Bc", ""⟩, ⟨"Done", "0"⟩]
  handlers :=
    [(" A", .action fun w d => (w, d, .ok ())), (" Bc", .action fun w d => (w, d, .ok ()))]
  start := some " Bc"

def paddedMachine : Machine Unit Unit :=
  padded.assemble [.action 1, .action 2, .terminal] 1

theorem build_padded :
    padded.build = .ok paddedMachine :=
  build_eq_assemble (by simp [padded]) (by decide +kernel) (by decide +kernel)
    (by decide +kernel) (by decide +kernel) (List.isEmpty_iff.1 (by decide +kernel))

/-- An instance is in a state that its own name does not find. -/
theorem start_not_found_by_name :
    ∃ m, padded.build = .ok m ∧ m.nameOf? m.start = some " Bc" ∧ m.idOf? " Bc" = none ∧
      m.requireState " Bc" (m.newInstance () ()) =
        .error (.unknownState "Padded" " Bc") := by
  refine ⟨_, build_padded, by decide +kernel, by decide +kernel, ?_⟩
  have hnone : paddedMachine.idOf? " Bc" = none := by
    decide +kernel
  exact (Machine.unheard_of_idOf? hnone).required _

/-- Of the names of the machine, one is trimmed to its acronym, one is trimmed to nothing
that is known, and one is as it was. -/
theorem addressing_padded :
    padded.build = .ok paddedMachine ∧ Addressing padded paddedMachine ∧
      paddedMachine.Speaks " A" 0 ∧ paddedMachine.Unheard " Bc" ∧
      paddedMachine.Speaks "Done" 2 := by
  have h := addressing_of_build build_padded
  refine ⟨build_padded, h, ?_, ?_, ?_⟩
  · exact h.name_speaks 0 " A" (by decide +kernel) (by decide +kernel)
  · exact h.name_unheard 1 " Bc" (by decide +kernel) (by decide +kernel)
  · exact h.name_speaks 2 "Done" (by decide +kernel) (by decide +kernel)

end Blueprint
end Flowchart

import Flowchart.Blueprint.Binding
import Flowchart.Proofs.Entries

/-!
# When handlers fit

Binding goes through the registrations once and then through the states, which claim
their handlers one after the other.  This module says what that comes to.  A state
finds under its handler name what all registrations give for it, if no state before has
claimed that name, and what is left at the end is what belongs to no state.

So nothing is wrong exactly if no name is registered twice, no two states have one
handler name, every state has what its kind asks for, and every registered name is the
handler name of a state.
-/

namespace Flowchart
namespace Binding

variable {ω D : Type}

/-! ### Registering -/

theorem ascending_register
    {pending handlers : List (String × Handler ω D)}
    (h : Entries.Ascending pending) :
    Entries.Ascending (register pending handlers).2 := by
  induction handlers generalizing pending with
  | nil =>
      exact h
  | cons entry rest ih =>
      obtain ⟨name, handler⟩ := entry
      unfold register
      split_ifs
      · exact ih h
      · exact ih (h.insert name handler)

/-- Of several handlers that are registered under one name the first counts. -/
theorem lookup_register
    (pending handlers : List (String × Handler ω D))
    (key : String) :
    (register pending handlers).2.lookup key =
      (pending.lookup key).or (handlers.lookup key) := by
  induction handlers generalizing pending with
  | nil =>
      simp [register]
  | cons entry rest ih =>
      obtain ⟨name, handler⟩ := entry
      rw [register, Entries.lookup_cons_eq]
      cases hthere : pending.lookup name with
      | some own =>
          rw [Option.isSome_some, if_pos rfl, ih]
          by_cases hkey : key = name <;> simp [hkey, hthere]
      | none =>
          rw [Option.isSome_none, if_neg Bool.false_ne_true, ih, Entries.lookup_insert]
          by_cases hkey : key = name <;> simp [hkey, hthere]

/-- Registering reports nothing exactly if no name is there already or comes twice. -/
theorem register_eq_nil_iff
    (pending handlers : List (String × Handler ω D)) :
    (register pending handlers).1 = [] ↔
      (∀ name ∈ handlers.map Prod.fst, pending.lookup name = none) ∧
      (handlers.map Prod.fst).Nodup := by
  induction handlers generalizing pending with
  | nil =>
      simp [register]
  | cons entry rest ih =>
      obtain ⟨name, handler⟩ := entry
      rw [register, List.map_cons, List.nodup_cons, List.forall_mem_cons]
      cases hthere : pending.lookup name with
      | some own =>
          simp
      | none =>
          have hkept : ∀ other ∈ rest.map Prod.fst,
              ((Entries.insert name handler pending).lookup other = none ↔
                other ≠ name ∧ pending.lookup other = none) := by
            intro other _
            rw [Entries.lookup_insert]
            by_cases hsame : other = name <;> simp [hsame]
          rw [Option.isSome_none, if_neg Bool.false_ne_true, ih, forall₂_congr hkept]
          constructor
          · rintro ⟨hrest, hnodup⟩
            exact ⟨⟨rfl, fun other hother => (hrest other hother).2⟩,
              fun hmem => (hrest name hmem).1 rfl, hnodup⟩
          · rintro ⟨⟨-, hrest⟩, hfresh, hnodup⟩
            refine ⟨fun other hother => ⟨?_, hrest other hother⟩, hnodup⟩
            rintro rfl
            exact hfresh hother

/-! ### What a state asks for -/

/-- What a state of a kind asks for: a terminal state must have no handler and
an ending that the settings allow, and any other a handler of its kind. -/
def Fits (settings : Settings) (name : String) (kind : Kind)
    (handler : Option (Handler ω D)) : Prop :=
  if kind = .terminal then
    handler = none ∧ settings.isTerminalName name = true
  else
    ∃ h, handler = some h ∧ h.kind = kind

theorem ownProblems_eq_nil_iff
    (settings : Settings)
    (name : String)
    (row : Row)
    (handler : Option (Handler ω D)) :
    ownProblems settings name row handler = [] ↔
      Fits settings name row.kind handler := by
  cases row with
  | terminal =>
      cases handler <;>
        cases hname : settings.isTerminalName name <;>
        simp [ownProblems, Fits, Row.kind, hname]
  | action next =>
      cases handler <;> simp [ownProblems, Fits, Row.kind]
  | decision onTrue onFalse =>
      cases handler <;> simp [ownProblems, Fits, Row.kind]

@[simp]
theorem slot_terminal
    (handler : Option (Handler ω D)) :
    slot .terminal handler = none :=
  rfl

@[simp]
theorem slot_action
    (next : StateId)
    (handler : Option (Handler ω D)) :
    slot (.action next) handler = handler :=
  rfl

@[simp]
theorem slot_decision
    (onTrue onFalse : StateId)
    (handler : Option (Handler ω D)) :
    slot (.decision onTrue onFalse) handler = handler :=
  rfl

/-- Where the handler of a state fits, it is what stands at the state. -/
theorem Fits.slot_eq
    {settings : Settings}
    {name : String}
    {row : Row}
    {handler : Option (Handler ω D)}
    (h : Fits settings name row.kind handler) :
    slot row handler = handler := by
  cases row with
  | terminal => exact h.1.symm
  | action | decision => rfl

/-! ### Claiming -/

/-- Handler names that are new stay so past a state that has none of them. -/
theorem new_append
    {earlier : List String}
    {name : String}
    {rest : List (String × Row)}
    (hrest : ∀ s ∈ rest, handlerName s.1 ∉ earlier.map handlerName)
    (hfresh : handlerName name ∉ rest.map fun s => handlerName s.1) :
    ∀ s ∈ rest, handlerName s.1 ∉ (earlier ++ [name]).map handlerName := by
  intro s hs hmem
  rw [List.map_append, List.mem_append] at hmem
  rcases hmem with hmem | hmem
  · exact hrest s hs hmem
  · exact hfresh (List.mem_map.2 ⟨s, hs, by simpa using hmem⟩)

/-- What is wrong with a state that comes after others with the given names, where all
registrations are in sight. -/
def stateProblems (settings : Settings) (handlers : List (String × Handler ω D))
    (earlier : List String) (name : String) (row : Row) : List BuildError :=
  match earlier.find? fun other => handlerName other = handlerName name with
  | some first => [.handlerClash (handlerName name) first name]
  | none => ownProblems settings name row (handlers.lookup (handlerName name))

/-- What is wrong with states that come after others with the given names, state by
state. -/
def allStateProblems (settings : Settings) (handlers : List (String × Handler ω D)) :
    (earlier : List String) → List (String × Row) → List BuildError
  | _, [] => []
  | earlier, (name, row) :: rest =>
    stateProblems settings handlers earlier name row ++
      allStateProblems settings handlers (earlier ++ [name]) rest

/-- What states with the given names leave of the registrations: the first state with a
handler name has claimed it, and what is pending is what none of them has claimed. -/
structure Leaves (all : List (String × Handler ω D)) (earlier : List String)
    (claimed : List (String × String)) (pending : List (String × Handler ω D)) :
    Prop where
  claimed_eq : ∀ key,
    claimed.lookup key = earlier.find? fun other => handlerName other = key
  pending_eq : pending = all.filter fun r => r.1 ∉ earlier.map handlerName

section Claim

variable {handlers all pending : List (String × Handler ω D)} {earlier : List String}
  {claimed : List (String × String)}

theorem Leaves.start
    (all : List (String × Handler ω D)) :
    Leaves all [] [] all where
  claimed_eq := by simp
  pending_eq := by simp

theorem Leaves.lookup_eq_none_iff
    (h : Leaves all earlier claimed pending)
    (key : String) :
    claimed.lookup key = none ↔ key ∉ earlier.map handlerName := by
  rw [h.claimed_eq]
  simp

/-- A handler name that no state has claimed has its handler among those that are
pending. -/
theorem Leaves.lookup_pending
    (h : Leaves all earlier claimed pending)
    {key : String}
    (hnew : claimed.lookup key = none) :
    pending.lookup key = all.lookup key := by
  have hkeep : decide (key ∉ earlier.map handlerName) = true :=
    decide_eq_true ((h.lookup_eq_none_iff key).1 hnew)
  rw [h.pending_eq]
  exact Entries.lookup_filter_keys (fun key => decide (key ∉ earlier.map handlerName))
    hkeep all

/-- A state whose handler name is claimed leaves everything as it is. -/
theorem Leaves.of_clash
    (h : Leaves all earlier claimed pending)
    {name first : String}
    (hold : claimed.lookup (handlerName name) = some first) :
    Leaves all (earlier ++ [name]) claimed pending where
  claimed_eq := by
    intro key
    rw [List.find?_append, ← h.claimed_eq]
    by_cases hkey : handlerName name = key
    · subst hkey
      simp [hold]
    · simp [hkey]
  pending_eq := by
    have hmem : handlerName name ∈ earlier.map handlerName := by
      by_contra hnot
      simp [(h.lookup_eq_none_iff _).2 hnot] at hold
    rw [h.pending_eq]
    refine List.filter_congr fun r _ => ?_
    by_cases hr : r.1 = handlerName name <;> simp_all

/-- A state that claims its handler name takes the handler away. -/
theorem Leaves.of_claim
    (h : Leaves all earlier claimed pending)
    {name : String}
    (hnew : claimed.lookup (handlerName name) = none) :
    Leaves all (earlier ++ [name]) ((handlerName name, name) :: claimed)
      (pending.filter fun r => r.1 ≠ handlerName name) where
  claimed_eq := by
    intro key
    rw [Entries.lookup_cons_eq, List.find?_append, ← h.claimed_eq]
    by_cases hkey : key = handlerName name
    · simp [hkey, hnew]
    · simp [hkey, Ne.symm hkey]
  pending_eq := by
    rw [h.pending_eq, List.filter_filter]
    refine List.filter_congr fun r _ => ?_
    rw [← Bool.decide_and, decide_eq_decide, List.map_append, List.mem_append,
      List.map_singleton, List.mem_singleton, not_or, and_comm]

/-- What is wrong with the states, where each looks for its handler among those that are
pending. -/
theorem problems_claim
    (settings : Settings)
    (hall : ∀ key, all.lookup key = handlers.lookup key)
    (h : Leaves all earlier claimed pending)
    (states : List (String × Row)) :
    (claim settings claimed pending states).problems =
      allStateProblems settings handlers earlier states := by
  induction states generalizing earlier claimed pending with
  | nil =>
      rfl
  | cons s rest ih =>
      obtain ⟨name, row⟩ := s
      rw [claim, allStateProblems, stateProblems, ← h.claimed_eq]
      cases hfind : claimed.lookup (handlerName name) with
      | some first =>
          exact congrArg _ (ih (h.of_clash hfind))
      | none =>
          dsimp only
          rw [ih (h.of_claim hfind), h.lookup_pending hfind, hall]

/-- What is pending at the end is what no state has claimed. -/
theorem pending_claim
    (settings : Settings)
    (h : Leaves all earlier claimed pending)
    (states : List (String × Row)) :
    (claim settings claimed pending states).pending =
      all.filter fun r => r.1 ∉ (earlier ++ states.map Prod.fst).map handlerName := by
  induction states generalizing earlier claimed pending with
  | nil =>
      rw [claim, h.pending_eq, List.map_nil, List.append_nil]
  | cons s rest ih =>
      obtain ⟨name, row⟩ := s
      rw [claim, List.map_cons, List.append_cons]
      cases hfind : claimed.lookup (handlerName name) with
      | some first =>
          exact ih (h.of_clash hfind)
      | none =>
          exact ih (h.of_claim hfind)

/-- Where all handler names differ, each state has the handler of its name. -/
theorem slots_claim
    (settings : Settings)
    (hall : ∀ key, all.lookup key = handlers.lookup key)
    (h : Leaves all earlier claimed pending)
    {states : List (String × Row)}
    (hnew : ∀ s ∈ states, handlerName s.1 ∉ earlier.map handlerName)
    (hnodup : (states.map fun s => handlerName s.1).Nodup) :
    (claim settings claimed pending states).slots =
      states.map fun s => slot s.2 (handlers.lookup (handlerName s.1)) := by
  induction states generalizing earlier claimed pending with
  | nil =>
      rfl
  | cons s rest ih =>
      obtain ⟨name, row⟩ := s
      obtain ⟨hname, hrest⟩ := List.forall_mem_cons.1 hnew
      obtain ⟨hfresh, hnodup⟩ := List.nodup_cons.1 hnodup
      have hfind := (h.lookup_eq_none_iff _).2 hname
      have hlater := new_append hrest hfresh
      rw [claim, hfind]
      dsimp only
      rw [ih (h.of_claim hfind) hlater hnodup, h.lookup_pending hfind, hall, List.map_cons]

end Claim

theorem stateProblems_eq_nil_iff
    (settings : Settings)
    (handlers : List (String × Handler ω D))
    (earlier : List String)
    (name : String)
    (row : Row) :
    stateProblems settings handlers earlier name row = [] ↔
      handlerName name ∉ earlier.map handlerName ∧
      Fits settings name row.kind (handlers.lookup (handlerName name)) := by
  unfold stateProblems
  cases hfind : earlier.find? fun other => handlerName other = handlerName name with
  | some first =>
      have hmem := List.mem_of_find?_eq_some hfind
      have heq : handlerName first = handlerName name := by
        simpa using List.find?_some hfind
      have : handlerName name ∈ earlier.map handlerName :=
        List.mem_map.2 ⟨first, hmem, heq⟩
      simp [this]
  | none =>
      have hnew : handlerName name ∉ earlier.map handlerName := by
        simpa using hfind
      rw [ownProblems_eq_nil_iff]
      exact ⟨fun h => ⟨hnew, h⟩, fun h => h.2⟩

theorem allStateProblems_eq_nil_iff
    (settings : Settings)
    (handlers : List (String × Handler ω D))
    (earlier : List String)
    (states : List (String × Row)) :
    allStateProblems settings handlers earlier states = [] ↔
      (∀ s ∈ states, handlerName s.1 ∉ earlier.map handlerName) ∧
      (states.map fun s => handlerName s.1).Nodup ∧
      ∀ s ∈ states,
        Fits settings s.1 s.2.kind (handlers.lookup (handlerName s.1)) := by
  induction states generalizing earlier with
  | nil =>
      simp [allStateProblems]
  | cons s rest ih =>
      obtain ⟨name, row⟩ := s
      rw [allStateProblems, List.append_eq_nil_iff, stateProblems_eq_nil_iff, ih]
      constructor
      · rintro ⟨⟨hnew, hfits⟩, hrest, hnodup, hall⟩
        refine ⟨?_, List.nodup_cons.2 ⟨?_, hnodup⟩, ?_⟩
        · intro s hs
          rcases List.mem_cons.1 hs with rfl | hs
          · exact hnew
          · exact fun hmem => hrest s hs (by simp_all)
        · intro hmem
          obtain ⟨s, hs, heq⟩ := List.mem_map.1 hmem
          exact hrest s hs (by simp [heq])
        · intro s hs
          rcases List.mem_cons.1 hs with rfl | hs
          · exact hfits
          · exact hall s hs
      · rintro ⟨hnew, hnodup, hall⟩
        obtain ⟨hfresh, hnodup⟩ := List.nodup_cons.1 hnodup
        obtain ⟨hname, hrest⟩ := List.forall_mem_cons.1 hnew
        obtain ⟨hfits, hall⟩ := List.forall_mem_cons.1 hall
        exact ⟨⟨hname, hfits⟩, new_append hrest hfresh, hnodup, hall⟩

/-! ### Binding as a whole -/

/-- Everything that is wrong with the handlers of a list of states with their rows. -/
def problems (settings : Settings) (handlers : List (String × Handler ω D))
    (states : List (String × Row)) : List BuildError :=
  (pass settings handlers states).problems

section Whole

variable (settings : Settings) (handlers : List (String × Handler ω D))
  (states : List (String × Row))

theorem lookup_registered
    (key : String) :
    (register [] handlers).2.lookup key = handlers.lookup key := by
  rw [lookup_register, List.lookup_nil, Option.none_or]

theorem problems_eq :
    problems settings handlers states =
      (register [] handlers).1 ++ allStateProblems settings handlers [] states ++
        (pass settings handlers states).pending.map fun r => .orphanHandler r.1 := by
  unfold problems pass
  dsimp only
  rw [problems_claim settings (lookup_registered handlers) (.start _) states]

theorem pending_pass :
    (pass settings handlers states).pending =
      (register [] handlers).2.filter fun r =>
        r.1 ∉ (states.map Prod.fst).map handlerName := by
  rw [pass, pending_claim settings (.start _) states, List.nil_append]

/-- What is left belongs to no state. -/
theorem mem_pending_pass_iff
    (name : String) :
    name ∈ (pass settings handlers states).pending.map Prod.fst ↔
      name ∈ handlers.map Prod.fst ∧ ∀ s ∈ states, handlerName s.1 ≠ name := by
  have hkept : name ∈ (pass settings handlers states).pending.map Prod.fst ↔
      name ∈ (register [] handlers).2.map Prod.fst ∧
      ∀ s ∈ states, handlerName s.1 ≠ name := by
    rw [pending_pass]
    constructor
    · intro hname
      obtain ⟨r, hr, rfl⟩ := List.mem_map.1 hname
      obtain ⟨hregistered, hfree⟩ := List.mem_filter.1 hr
      exact ⟨List.mem_map.2 ⟨r, hregistered, rfl⟩, by simpa using hfree⟩
    · rintro ⟨hname, hfree⟩
      obtain ⟨r, hr, rfl⟩ := List.mem_map.1 hname
      exact List.mem_map.2 ⟨r, List.mem_filter.2 ⟨hr, by simpa using hfree⟩, rfl⟩
  rw [hkept, ← Entries.lookup_isSome_iff, lookup_registered, Entries.lookup_isSome_iff]

/-- No name is left twice. -/
theorem nodup_pending_pass :
    ((pass settings handlers states).pending.map Prod.fst).Nodup := by
  apply Entries.Ascending.nodup_keys
  rw [pending_pass]
  exact (ascending_register .nil).filter _

/-- Binding finds nothing wrong exactly if handlers and states fit. -/
theorem problems_eq_nil_iff :
    problems settings handlers states = [] ↔
      (handlers.map Prod.fst).Nodup ∧
      (states.map fun s => handlerName s.1).Nodup ∧
      (∀ s ∈ states,
        Fits settings s.1 s.2.kind (handlers.lookup (handlerName s.1))) ∧
      ∀ r ∈ handlers, ∃ s ∈ states, handlerName s.1 = r.1 := by
  have horphans : (pass settings handlers states).pending = [] ↔
      ∀ r ∈ handlers, ∃ s ∈ states, handlerName s.1 = r.1 := by
    have hnames : (pass settings handlers states).pending.map Prod.fst = [] ↔
        ∀ name ∈ handlers.map Prod.fst, ∃ s ∈ states, handlerName s.1 = name := by
      simp only [List.eq_nil_iff_forall_not_mem, mem_pending_pass_iff]
      simp
    rw [← List.map_eq_nil_iff, hnames]
    simp
  rw [problems_eq, List.append_eq_nil_iff, List.append_eq_nil_iff, List.map_eq_nil_iff,
    register_eq_nil_iff, allStateProblems_eq_nil_iff, horphans]
  simp [and_assoc]

theorem bindHandlers_eq :
    bindHandlers settings handlers states =
      match problems settings handlers states with
      | [] => .ok (pass settings handlers states).slots
      | errors => .error (.ofList errors) :=
  rfl

/-- Binding accepts exactly where it finds nothing wrong, and then each state has the
handler of its name. -/
theorem bindHandlers_eq_ok_iff
    (slots : List (Option (Handler ω D))) :
    bindHandlers settings handlers states = .ok slots ↔
      problems settings handlers states = [] ∧
      slots = states.map fun s => slot s.2 (handlers.lookup (handlerName s.1)) := by
  rw [bindHandlers_eq]
  cases hproblems : problems settings handlers states with
  | nil =>
      have hdistinct := ((problems_eq_nil_iff settings handlers states).1 hproblems).2.1
      have hslots : (pass settings handlers states).slots =
          states.map fun s => slot s.2 (handlers.lookup (handlerName s.1)) :=
        slots_claim settings (lookup_registered handlers) (.start _) (by simp) hdistinct
      simp [hslots, eq_comm]
  | cons e rest =>
      simp

/-- Otherwise binding fails with all that it finds. -/
theorem bindHandlers_eq_error_iff
    (e : BuildError) :
    bindHandlers settings handlers states = .error e ↔
      problems settings handlers states ≠ [] ∧
      e = .ofList (problems settings handlers states) := by
  rw [bindHandlers_eq]
  cases problems settings handlers states with
  | nil => simp
  | cons first rest => simp [eq_comm]

end Whole

end Binding
end Flowchart

import Flowchart.Proofs.Build
import Mathlib.Data.List.Dedup
import Mathlib.Data.List.Perm.Basic

/-!
# Every fault of a binding

The binding phase goes through the states in order and skips what it finds settled.
This module lists the faults by their kind instead, each kind with the condition that
makes it a fault, and compares the two lists.

They have the same entries, each as often, but for one kind: a terminal state whose
handler name an earlier state has is reported for that alone, and a bad ending of its
name is overlooked.
-/

namespace Flowchart

namespace BuildError

/-- An error that is no group. -/
def IsSingle (e : BuildError) : Prop :=
  ∀ group, e ≠ .multiple group

theorem IsSingle.problems_eq
    {e : BuildError}
    (h : e.IsSingle) :
    e.problems = [e] := by
  cases e with
  | multiple group => exact absurd rfl (h group)
  | _ => rfl

theorem problemsOfAll_eq_self
    {errors : List BuildError}
    (h : ∀ e ∈ errors, e.IsSingle) :
    problemsOfAll errors = errors := by
  induction errors with
  | nil =>
      rfl
  | cons e rest ih =>
      obtain ⟨he, hrest⟩ := List.forall_mem_cons.1 h
      rw [problemsOfAll, he.problems_eq, ih hrest]
      rfl

/-- Errors that are no groups are the problems of the error that stands for them all. -/
theorem problems_ofList
    {errors : List BuildError}
    (h : ∀ e ∈ errors, e.IsSingle) :
    (ofList errors).problems = errors := by
  unfold ofList
  split
  · exact (h _ (by simp)).problems_eq
  · exact problemsOfAll_eq_self h

/-- Errors are grouped exactly if they are not alone. -/
theorem ofList_eq_multiple_iff
    {errors : List BuildError}
    (h : ∀ e ∈ errors, e.IsSingle)
    (hne : errors ≠ []) :
    (∃ group, ofList errors = .multiple group) ↔ 2 ≤ errors.length := by
  match errors with
  | [] => exact absurd rfl hne
  | [e] => simpa [ofList, IsSingle] using h e (by simp)
  | e :: e' :: rest => simp [ofList]

end BuildError

namespace Binding

variable {ω D : Type}

/-! ### Faults by kind -/

/-- The entries of a list, each after those before it. -/
def withEarlier {α : Type} (l : List α) : List (List α × α) :=
  l.mapIdx fun position entry => (l.take position, entry)

/-- A declared state with its row, and the names that are declared before it. -/
structure Place where
  earlier : List String
  name : String
  row : Row

/-- The places of all states. -/
def places (states : List (String × Row)) : List Place :=
  (withEarlier states).map fun (earlier, name, row) => ⟨earlier.map Prod.fst, name, row⟩

namespace Place

/-- No state before has the same handler name. -/
def First (p : Place) : Prop :=
  ∀ other ∈ p.earlier, handlerName other ≠ handlerName p.name

instance (p : Place) : Decidable p.First :=
  inferInstanceAs (Decidable (∀ other ∈ p.earlier, handlerName other ≠ handlerName p.name))

/-- A terminal state with an ending that the settings do not allow. -/
def IllNamed (settings : Settings) (p : Place) : Prop :=
  p.row = .terminal ∧ settings.isTerminalName p.name = false

instance (settings : Settings) (p : Place) : Decidable (p.IllNamed settings) :=
  inferInstanceAs (Decidable (_ ∧ _))

/-- An earlier state has the handler name; the first such state is named. -/
def clash (p : Place) : List BuildError :=
  match p.earlier.find? fun other => handlerName other = handlerName p.name with
  | some first => [.handlerClash (handlerName p.name) first p.name]
  | none => []

def badEnding (settings : Settings) (p : Place) : List BuildError :=
  if p.IllNamed settings then [.terminalName p.name settings.terminalSuffixes] else []

/-- A handler is registered for a terminal state. -/
def needless (handlers : List (String × Handler ω D)) (p : Place) : List BuildError :=
  if p.First ∧ p.row = .terminal ∧ (handlers.lookup (handlerName p.name)).isSome then
    [.terminalHandler p.name (handlerName p.name)]
  else []

/-- No handler is registered for a state that can be left. -/
def missing (handlers : List (String × Handler ω D)) (p : Place) : List BuildError :=
  if p.First ∧ p.row ≠ .terminal ∧ handlers.lookup (handlerName p.name) = none then
    [.missingHandler p.name (handlerName p.name) p.row.kind]
  else []

/-- The handler that is registered first for a state that can be left has another
kind. -/
def mismatch (handlers : List (String × Handler ω D)) (p : Place) : List BuildError :=
  match handlers.lookup (handlerName p.name) with
  | some h =>
      if p.First ∧ p.row ≠ .terminal ∧ h.kind ≠ p.row.kind then
        [.kindMismatch p.name p.row.kind h.kind]
      else []
  | none => []

end Place

/-- The names that are registered again, once for each time. -/
def repeated (names : List String) : List String :=
  (withEarlier names).filterMap fun (earlier, name) =>
    if name ∈ earlier then some name else none

/-- The distinct registered names that are the handler name of no state. -/
def unclaimed (names : List String) (states : List (String × Row)) : List String :=
  names.dedup.filter fun name => ∀ s ∈ states, handlerName s.1 ≠ name

/-- All faults of a binding, kind by kind. -/
def faults (settings : Settings) (handlers : List (String × Handler ω D))
    (states : List (String × Row)) : List BuildError :=
  (repeated (handlers.map Prod.fst)).map .duplicateHandler ++
    (places states).flatMap Place.clash ++
    (places states).flatMap (Place.badEnding settings) ++
    (places states).flatMap (Place.needless handlers) ++
    (places states).flatMap (Place.missing handlers) ++
    (places states).flatMap (Place.mismatch handlers) ++
    (unclaimed (handlers.map Prod.fst) states).map .orphanHandler

/-- The bad endings of terminal states that come after another with the same handler
name. -/
def overlooked (settings : Settings) (states : List (String × Row)) : List BuildError :=
  (places states).flatMap fun p => if p.First then [] else p.badEnding settings

/-! ### Names -/

theorem withEarlier_cons
    {α : Type}
    (first : α)
    (rest : List α) :
    withEarlier (first :: rest) =
      ([], first) :: (withEarlier rest).map fun (earlier, entry) =>
        (first :: earlier, entry) := by
  rw [withEarlier, List.mapIdx_cons]
  refine congrArg _ (List.ext_getElem (by simp [withEarlier]) ?_)
  intro position hleft hright
  simp [withEarlier]

/-- A registration is reported if its name is there already or was registered before. -/
theorem register_eq
    (pending handlers : List (String × Handler ω D)) :
    (register pending handlers).1 =
      ((withEarlier (handlers.map Prod.fst)).filterMap fun (earlier, name) =>
        if (pending.lookup name).isSome ∨ name ∈ earlier then some name else none).map
        .duplicateHandler := by
  induction handlers generalizing pending with
  | nil =>
      rfl
  | cons entry rest ih =>
      obtain ⟨name, handler⟩ := entry
      rw [register, List.map_cons, withEarlier_cons, List.filterMap_cons,
        List.filterMap_map]
      by_cases hthere : (pending.lookup name).isSome = true
      · simp only [hthere, if_true, true_or, ih, List.map_cons]
        refine congrArg _ (congrArg _ (List.filterMap_congr fun entry _ => ?_))
        by_cases hsame : entry.2 = name
        · simp [hsame, hthere]
        · simp only [Function.comp_apply, List.mem_cons, hsame, false_or]
      · simp only [hthere, Bool.false_eq_true, if_false, false_or, List.not_mem_nil, ih]
        refine congrArg _ (List.filterMap_congr fun entry _ => ?_)
        by_cases hsame : entry.2 = name
        · simp [hsame, Entries.lookup_insert]
        · simp only [Function.comp_apply, Entries.lookup_insert, List.mem_cons, hsame,
            if_false, false_or]

/-- Registering reports each name that is registered again. -/
theorem register_eq_repeated
    (handlers : List (String × Handler ω D)) :
    (register [] handlers).1 =
      (repeated (handlers.map Prod.fst)).map .duplicateHandler := by
  rw [register_eq, repeated]
  simp

/-- What is left is what belongs to no state. -/
theorem pending_perm_unclaimed
    (settings : Settings)
    (handlers : List (String × Handler ω D))
    (states : List (String × Row)) :
    ((pass settings handlers states).pending.map Prod.fst).Perm
      (unclaimed (handlers.map Prod.fst) states) := by
  unfold unclaimed
  refine (List.perm_ext_iff_of_nodup (nodup_pending_pass settings handlers states)
    ((List.nodup_dedup _).filter _)).2 fun name => ?_
  rw [mem_pending_pass_iff]
  simp

/-! ### States -/

theorem places_cons
    (s : String × Row)
    (rest : List (String × Row)) :
    places (s :: rest) =
      ⟨[], s.1, s.2⟩ :: (places rest).map fun p =>
        { p with earlier := s.1 :: p.earlier } := by
  simp [places, withEarlier_cons, Function.comp_def]

/-- The states are gone through place by place. -/
theorem allStateProblems_eq_flatMap
    (settings : Settings)
    (handlers : List (String × Handler ω D))
    (earlier : List String)
    (states : List (String × Row)) :
    allStateProblems settings handlers earlier states =
      (places states).flatMap fun p =>
        stateProblems settings handlers (earlier ++ p.earlier) p.name p.row := by
  induction states generalizing earlier with
  | nil =>
      rfl
  | cons s rest ih =>
      rw [allStateProblems, ih, places_cons, List.flatMap_cons, List.flatMap_map]
      simp

namespace Place

theorem find?_eq_none_iff
    (p : Place) :
    (p.earlier.find? fun other => handlerName other = handlerName p.name) = none ↔
      p.First := by
  simp [First]

/-- What is reported of the first state with its handler name. -/
theorem ownProblems_perm
    (settings : Settings)
    (handlers : List (String × Handler ω D))
    {p : Place}
    (hfirst : p.First) :
    (ownProblems settings p.name p.row (handlers.lookup (handlerName p.name))).Perm
      (p.badEnding settings ++ (p.needless handlers ++ (p.missing handlers ++
        p.mismatch handlers))) := by
  obtain ⟨earlier, name, row⟩ := p
  cases row with
  | terminal =>
      cases hh : handlers.lookup (handlerName name) with
      | none =>
          cases hname : settings.isTerminalName name <;>
            simp [ownProblems, badEnding, IllNamed, needless, missing, mismatch, Row.kind,
              hh, hname]
      | some h =>
          cases hname : settings.isTerminalName name <;>
            simp [ownProblems, badEnding, IllNamed, needless, missing, mismatch, Row.kind,
              hh, hname, hfirst, List.Perm.swap]
  | action next =>
      cases hh : handlers.lookup (handlerName name) with
      | none =>
          simp [ownProblems, badEnding, IllNamed, needless, missing, mismatch, Row.kind,
            hh, hfirst]
      | some h =>
          by_cases hkind : h.kind = .action <;>
            simp [ownProblems, badEnding, IllNamed, needless, missing, mismatch, Row.kind,
              hh, hfirst, hkind]
  | decision onTrue onFalse =>
      cases hh : handlers.lookup (handlerName name) with
      | none =>
          simp [ownProblems, badEnding, IllNamed, needless, missing, mismatch, Row.kind,
            hh, hfirst]
      | some h =>
          by_cases hkind : h.kind = .decision <;>
            simp [ownProblems, badEnding, IllNamed, needless, missing, mismatch, Row.kind,
              hh, hfirst, hkind]

/-- What is reported of a state, and what is overlooked there, are its faults. -/
theorem stateProblems_perm
    (settings : Settings)
    (handlers : List (String × Handler ω D))
    (p : Place) :
    (stateProblems settings handlers p.earlier p.name p.row ++
      if p.First then [] else p.badEnding settings).Perm
      (p.clash ++ (p.badEnding settings ++ (p.needless handlers ++ (p.missing handlers ++
        p.mismatch handlers)))) := by
  unfold stateProblems clash
  cases hfind : p.earlier.find? fun other => handlerName other = handlerName p.name with
  | none =>
      have hfirst := p.find?_eq_none_iff.1 hfind
      simpa [hfirst] using ownProblems_perm settings handlers hfirst
  | some first =>
      have hlate : ¬ p.First := by
        rw [← p.find?_eq_none_iff, hfind]
        simp
      have hmismatch : p.mismatch handlers = [] := by
        unfold mismatch
        split <;> simp [hlate]
      simp [hlate, needless, missing, hmismatch]

end Place

/-- What is reported of the states, and what is overlooked there, are the faults of
states. -/
theorem allStateProblems_perm
    (settings : Settings)
    (handlers : List (String × Handler ω D))
    (states : List (String × Row)) :
    (allStateProblems settings handlers [] states ++ overlooked settings states).Perm
      ((places states).flatMap Place.clash ++
        ((places states).flatMap (Place.badEnding settings) ++
          ((places states).flatMap (Place.needless handlers) ++
            ((places states).flatMap (Place.missing handlers) ++
              (places states).flatMap (Place.mismatch handlers))))) := by
  have hsplit : ∀ f g : Place → List BuildError,
      ((places states).flatMap fun p => f p ++ g p).Perm
        ((places states).flatMap f ++ (places states).flatMap g) :=
    fun f g => (List.flatMap_append_perm _ f g).symm
  rw [allStateProblems_eq_flatMap, overlooked]
  refine (List.flatMap_append_perm _ _ _).trans ?_
  refine (List.Perm.flatMap_left _ fun p _ =>
    p.stateProblems_perm settings handlers).trans ?_
  refine (hsplit _ _).trans (.append_left _ ?_)
  refine (hsplit _ _).trans (.append_left _ ?_)
  refine (hsplit _ _).trans (.append_left _ ?_)
  exact hsplit _ _

/-- The binding phase reports every fault as often as it occurs, but for those that it
overlooks. -/
theorem problems_append_overlooked_perm
    (settings : Settings)
    (handlers : List (String × Handler ω D))
    (states : List (String × Row)) :
    (problems settings handlers states ++ overlooked settings states).Perm
      (faults settings handlers states) := by
  have hstates := allStateProblems_perm settings handlers states
  have horphans := (pending_perm_unclaimed settings handlers states).map
    BuildError.orphanHandler
  rw [List.map_map, Function.comp_def] at horphans
  simp only [problems_eq, faults, register_eq_repeated, List.append_assoc] at hstates ⊢
  refine .append_left _ ?_
  refine (List.perm_append_comm.append_left _).trans ?_
  simpa only [List.append_assoc] using hstates.append horphans

/-- No fault is a group of faults. -/
theorem isSingle_of_mem_faults
    {settings : Settings}
    {handlers : List (String × Handler ω D)}
    {states : List (String × Row)}
    {e : BuildError}
    (he : e ∈ faults settings handlers states) :
    e.IsSingle := by
  rintro group rfl
  have hclash : ∀ p : Place, .multiple group ∉ p.clash := by
    intro p
    unfold Place.clash
    split <;> simp
  have hending : ∀ p : Place, .multiple group ∉ p.badEnding settings := by
    intro p
    unfold Place.badEnding
    split <;> simp
  have hneedless : ∀ p : Place, .multiple group ∉ p.needless handlers := by
    intro p
    unfold Place.needless
    split <;> simp
  have hmissing : ∀ p : Place, .multiple group ∉ p.missing handlers := by
    intro p
    unfold Place.missing
    split <;> simp
  have hmismatch : ∀ p : Place, .multiple group ∉ p.mismatch handlers := by
    intro p
    unfold Place.mismatch
    split
    · split <;> simp
    · simp
  simp [faults, List.mem_flatMap, hclash, hending, hneedless, hmissing, hmismatch] at he

theorem isSingle_of_mem_problems
    (settings : Settings)
    (handlers : List (String × Handler ω D))
    (states : List (String × Row)) :
    ∀ e ∈ problems settings handlers states, e.IsSingle := fun _ he =>
  isSingle_of_mem_faults
    ((problems_append_overlooked_perm settings handlers states).mem_iff.1
      (List.mem_append_left _ he))

/-- Nothing is overlooked exactly if every terminal state with a bad ending is the
first with its handler name. -/
theorem overlooked_eq_nil_iff
    (settings : Settings)
    (states : List (String × Row)) :
    overlooked settings states = [] ↔
      ∀ p ∈ places states, p.IllNamed settings → p.First := by
  rw [overlooked, List.flatMap_eq_nil_iff]
  refine forall₂_congr fun p _ => ?_
  by_cases hfirst : p.First <;> simp [hfirst, Place.badEnding]

/-- All faults are reported exactly if none is overlooked. -/
theorem problems_perm_faults_iff
    (settings : Settings)
    (handlers : List (String × Handler ω D))
    (states : List (String × Row)) :
    (problems settings handlers states).Perm (faults settings handlers states) ↔
      ∀ p ∈ places states, p.IllNamed settings → p.First := by
  have hperm := problems_append_overlooked_perm settings handlers states
  rw [← overlooked_eq_nil_iff]
  constructor
  · intro hall
    have hlen := hperm.length_eq.trans hall.length_eq.symm
    rw [List.length_append] at hlen
    exact List.length_eq_zero_iff.1 (by omega)
  · intro hnone
    simpa [hnone] using hperm

end Binding

namespace Blueprint

variable {ω D : Type}

/-- What the error of the binding phase says. -/
structure Reports (b : Blueprint ω D) (rows : List Row) (e : BuildError) : Prop where
  faults : (e.problems ++ Binding.overlooked b.settings (b.names.zip rows)).Perm
    (Binding.faults b.settings b.handlers (b.names.zip rows))
  ne_nil : e.problems ≠ []
  single : ∀ problem ∈ e.problems, ∀ group, problem ≠ .multiple group
  grouped : (∃ group, e = .multiple group) ↔ 2 ≤ e.problems.length
  alone : e.problems.length = 1 → e.problems = [e]

section Phases

variable {b : Blueprint ω D} {directory : Directory} {rows : List Row} {start : StateId}
  {e : BuildError}

/-- If the phases before accept a blueprint, building fails exactly with the problems of
the binding. -/
theorem build_eq_error_iff
    (hdeclared : b.declarations ≠ [])
    (hdirectory : Directory.ofNames b.names = .ok directory)
    (hrows : b.rows directory = .ok rows)
    (hstart : b.startId directory = .ok start) :
    b.build = .error e ↔
      Binding.problems b.settings b.handlers (b.names.zip rows) ≠ [] ∧
      e = .ofList (Binding.problems b.settings b.handlers (b.names.zip rows)) := by
  have hopen : b.declarations.isEmpty = false := by
    simpa using hdeclared
  have hbuild : b.build =
      (Binding.bindHandlers b.settings b.handlers (b.names.zip rows)).map fun handlers =>
        { name := b.name
          states := b.states rows handlers
          directory
          start
          settings := b.settings
          hooks := b.hooks } := by
    rw [names] at hdirectory
    simp only [build, hopen, Bool.false_eq_true, if_false, hdirectory, hrows, hstart, bind,
      Except.bind]
    rfl
  rw [hbuild, ← Binding.bindHandlers_eq_error_iff]
  cases Binding.bindHandlers b.settings b.handlers (b.names.zip rows) <;>
    simp [Except.map]

/-- If the phases before accept a blueprint and building fails, the faults of the
binding are reported, and all of them exactly if every terminal state with a bad ending
is the first with its handler name. -/
theorem reports_of_build
    (hdeclared : b.declarations ≠ [])
    (hdirectory : Directory.ofNames b.names = .ok directory)
    (hrows : b.rows directory = .ok rows)
    (hstart : b.startId directory = .ok start)
    (hbuild : b.build = .error e) :
    (e.problems.Perm (Binding.faults b.settings b.handlers (b.names.zip rows)) ↔
      ∀ p ∈ Binding.places (b.names.zip rows), p.IllNamed b.settings → p.First) ∧
    b.Reports rows e := by
  obtain ⟨hne, rfl⟩ :=
    (build_eq_error_iff hdeclared hdirectory hrows hstart).1 hbuild
  have hsingle : ∀ problem ∈ Binding.problems b.settings b.handlers (b.names.zip rows),
      problem.IsSingle :=
    Binding.isSingle_of_mem_problems _ _ _
  have hproblems := BuildError.problems_ofList hsingle
  refine ⟨by rw [hproblems]; exact Binding.problems_perm_faults_iff _ _ _, ?_⟩
  exact {
    faults := by
      rw [hproblems]
      exact Binding.problems_append_overlooked_perm _ _ _
    ne_nil := by rwa [hproblems]
    single := by rwa [hproblems]
    grouped := by
      rw [hproblems]
      exact BuildError.ofList_eq_multiple_iff hsingle hne
    alone := by
      rw [hproblems]
      intro hone
      obtain ⟨problem, hproblem⟩ := List.length_eq_one_iff.1 hone
      rw [hproblem]
      rfl }

end Phases

/-- Two states with one handler name, of which the second is terminal and has a bad
ending. -/
def shadowed : Blueprint Nat Nat where
  name := "Shadowed"
  declarations := [⟨"AbC", ""⟩, ⟨"abC", "0"⟩]
  handlers := [("abC", .action fun calls n => (calls + 1, n + 1, .ok ()))]

/-- The phases before the last accept the two states. -/
theorem phases_shadowed :
    shadowed.declarations ≠ [] ∧
    Directory.ofNames shadowed.names = .ok (Directory.ofEntries shadowed.names) ∧
    shadowed.rows (Directory.ofEntries shadowed.names) = .ok [.action 1, .terminal] ∧
    shadowed.startId (Directory.ofEntries shadowed.names) = .ok 0 := by
  have hnodup : (shadowed.names.map acronym).Nodup := by
    decide +kernel
  exact ⟨by simp [shadowed],
    Directory.ofNames_of_nodup (by decide +kernel) hnodup,
    (rows_eq_ok_iff hnodup _).2 (by decide +kernel), rfl⟩

theorem problems_shadowed :
    Binding.problems shadowed.settings shadowed.handlers
        (shadowed.names.zip [.action 1, .terminal]) =
      [.handlerClash "abC" "AbC" "abC"] := by
  have hfirst : handlerName "AbC" = "abC" := by
    decide +kernel
  have hsecond : handlerName "abC" = "abC" := by
    decide +kernel
  simp [Binding.problems, Binding.pass, Binding.register, Entries.insert,
    Binding.claim, Binding.ownProblems, shadowed, names, hfirst, hsecond, Row.kind,
    Handler.kind]

/-- The clash of the two states is reported, and the bad ending of the second is not. -/
theorem badEnding_not_reported :
    Directory.ofNames shadowed.names = .ok (Directory.ofEntries shadowed.names) ∧
    shadowed.rows (Directory.ofEntries shadowed.names) = .ok [.action 1, .terminal] ∧
    shadowed.startId (Directory.ofEntries shadowed.names) = .ok 0 ∧
    shadowed.build = .error (.handlerClash "abC" "AbC" "abC") ∧
    (BuildError.handlerClash "abC" "AbC" "abC").problems =
      [.handlerClash "abC" "AbC" "abC"] ∧
    .terminalName "abC" ["Complete", "End", "Done"] ∈
      Binding.faults shadowed.settings shadowed.handlers
        (shadowed.names.zip [.action 1, .terminal]) ∧
    ¬ (BuildError.handlerClash "abC" "AbC" "abC").problems.Perm
      (Binding.faults shadowed.settings shadowed.handlers
        (shadowed.names.zip [.action 1, .terminal])) := by
  obtain ⟨hdeclared, hdirectory, hrows, hstart⟩ := phases_shadowed
  have hbuild : shadowed.build = .error (.handlerClash "abC" "AbC" "abC") := by
    refine (build_eq_error_iff hdeclared hdirectory hrows hstart).2 ?_
    rw [problems_shadowed]
    exact ⟨by simp, rfl⟩
  have hplace : (⟨["AbC"], "abC", .terminal⟩ : Binding.Place) ∈
      Binding.places (shadowed.names.zip [.action 1, .terminal]) := by
    simp [Binding.places, Binding.withEarlier, shadowed, names]
  have hending :
      (⟨["AbC"], "abC", .terminal⟩ : Binding.Place).badEnding shadowed.settings =
      [.terminalName "abC" ["Complete", "End", "Done"]] :=
    if_pos ⟨rfl, by decide +kernel⟩
  have hfault : .terminalName "abC" ["Complete", "End", "Done"] ∈
      (Binding.places (shadowed.names.zip [.action 1, .terminal])).flatMap
        (Binding.Place.badEnding shadowed.settings) :=
    List.mem_flatMap.2 ⟨_, hplace, by simp [hending]⟩
  have hmem : .terminalName "abC" ["Complete", "End", "Done"] ∈
      Binding.faults shadowed.settings shadowed.handlers
        (shadowed.names.zip [.action 1, .terminal]) := by
    simp [Binding.faults, hfault]
  refine ⟨hdirectory, hrows, hstart, hbuild, rfl, hmem, fun hperm => ?_⟩
  have hreported := hperm.mem_iff.2 hmem
  simp [BuildError.problems] at hreported

/-- A blueprint with a fault of almost every kind. -/
def muddled : Blueprint Nat Nat where
  name := "Muddled"
  declarations := [⟨"Init", ""⟩, ⟨"Check", "F->I"⟩, ⟨"Finished", "0"⟩]
  handlers :=
    [("init", .decision fun calls n => (calls + 1, .ok (decide (3 ≤ n)))),
      ("init", .action fun calls n => (calls + 1, n + 1, .ok ())),
      ("cleanup", .action fun calls n => (calls + 1, n, .ok ()))]

/-- All five faults of the muddled blueprint are reported in one group. -/
theorem reports_muddled :
    ∃ e, muddled.build = .error e ∧
      e.problems.length = 5 ∧
      (∃ group, e = .multiple group) ∧
      e.problems.Perm (Binding.faults muddled.settings muddled.handlers
        (muddled.names.zip [.action 1, .decision 2 0, .terminal])) ∧
      muddled.Reports [.action 1, .decision 2 0, .terminal] e := by
  have hnodup : (muddled.names.map acronym).Nodup := by
    decide +kernel
  have hdirectory : Directory.ofNames muddled.names =
      .ok (Directory.ofEntries muddled.names) :=
    Directory.ofNames_of_nodup (by decide +kernel) hnodup
  have hrows : muddled.rows (Directory.ofEntries muddled.names) =
      .ok [.action 1, .decision 2 0, .terminal] :=
    (rows_eq_ok_iff hnodup _).2 (by decide +kernel)
  have hstart : muddled.startId (Directory.ofEntries muddled.names) = .ok 0 := rfl
  have hcount : (Binding.problems muddled.settings muddled.handlers
      (muddled.names.zip [.action 1, .decision 2 0, .terminal])).length = 5 := by
    decide +kernel
  have hdeclared : muddled.declarations ≠ [] := by
    simp [muddled]
  have hbuild := (build_eq_error_iff hdeclared hdirectory hrows hstart).2
    ⟨fun hnone => by simp [hnone] at hcount, rfl⟩
  obtain ⟨hperm, hreports⟩ :=
    reports_of_build hdeclared hdirectory hrows hstart hbuild
  have hlength := congrArg List.length (BuildError.problems_ofList
    (Binding.isSingle_of_mem_problems muddled.settings muddled.handlers
      (muddled.names.zip [.action 1, .decision 2 0, .terminal])))
  rw [hcount] at hlength
  exact ⟨_, hbuild, hlength, hreports.grouped.2 (by omega),
    hperm.2 (by decide +kernel), hreports⟩

end Blueprint
end Flowchart

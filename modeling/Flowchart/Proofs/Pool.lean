import Flowchart.Pool
import Flowchart.Proofs.Flow
import Flowchart.Proofs.Lockstep

/-!
# Pools hand out clean instances

A pool takes back an instance of its own machine that has halted, and no other.  The
data of the instance is reset and its next run begins, so that nothing of the run before
is left but the visit rules.  Whatever calls the pool has seen, the instances that it
keeps are therefore as good as new ones with the same data and the same rules: they give
the same answers to the same operations.

The calls that make an instance, hand one out again or take one back are counted along
the calls, each at the pool that the calls before it leave behind.
-/

namespace Flowchart

variable {ω D : Type}

/-- The operations that cannot tell a run from its repetition.  A condition may look at
anything but run numbers, surroundings and times. -/
def Operation.Repeatable : Operation ω D → Prop
  | runUntil _ condition =>
      ∀ j j' : Instance ω D, j.SameRun j' → j'.rules = j.rules → condition j' = condition j
  | setData _ _ | inject _ => False
  | _ => True

theorem Operation.Repeatable.inStep
    {op : Operation ω D}
    (h : op.Repeatable)
    (S : ω → ω → Prop)
    (i : Instance ω D) :
    op.InStep (fun _ => True) (Instance.Repeats S) i := by
  cases op with
  | runUntil bound condition => exact fun j j' hjj' => h j j' hjj'.toSameRun hjj'.rules_eq
  | replay => exact fun _ => trivial
  | setData | inject => exact h.elim
  | _ => trivial

namespace Owned

/-- An instance as it comes from the hands of a client: operations led to it, and its
machine is the one that its identity stands for. -/
structure Genuine (shared : Shared ω D) (owned : Owned ω D) : Prop where
  reachable : owned.shared.machine.Reachable owned.live
  identified : owned.shared.identity = shared.identity → owned.shared = shared

/-- The instance with its data reset, at the beginning of its next run. -/
def recycle (owned : Owned ω D) (reset : ω → D → ω × D) : Owned ω D :=
  { owned with
    live := owned.shared.machine.restart
      (owned.live.withEffect (reset owned.live.surroundings owned.live.data).1
        (reset owned.live.surroundings owned.live.data).2) }

/-- An instance of the given machine at the beginning of a run, with empty books. -/
structure Clean (shared : Shared ω D) (owned : Owned ω D) : Prop where
  shared_eq : owned.shared = shared
  reachable : shared.machine.Reachable owned.live
  current_eq : owned.live.current = shared.machine.start
  steps_eq : owned.live.steps = 0
  log_eq : owned.live.log = {}
  visits_eq : owned.live.visits = shared.machine.states.map fun _ => 0

/-- The instance answers all operations as a new one with the same data and the given
rules does, whatever the two do not see of each other's surroundings. -/
def AsNew (rules : VisitRules) (owned : Owned ω D) : Prop :=
  ∀ (S : ω → ω → Prop) (w : ω) (ops : List (Operation ω D)),
    (∀ p h, owned.shared.machine.handler? p = some h → h.Respects S) →
    S owned.live.surroundings w →
    (∀ op ∈ ops, op.Repeatable) →
    let new := { owned.shared.machine.newInstance w owned.live.data with rules := rules }
    owned.shared.machine.responses ops owned.live =
      owned.shared.machine.responses ops new ∧
    (owned.shared.machine.performAll ops owned.live).Repeats S
      (owned.shared.machine.performAll ops new)

theorem clean_newInstance
    (shared : Shared ω D)
    (w : ω)
    (d : D) :
    Clean shared ⟨shared, shared.machine.newInstance w d⟩ where
  shared_eq := rfl
  reachable := .start w d
  current_eq := rfl
  steps_eq := rfl
  log_eq := rfl
  visits_eq := rfl

theorem Genuine.clean_recycle
    {shared : Shared ω D}
    {owned : Owned ω D}
    (h : owned.Genuine shared)
    (hidentity : owned.shared.identity = shared.identity)
    (reset : ω → D → ω × D) :
    (owned.recycle reset).Clean shared := by
  obtain rfl := h.identified hidentity
  exact {
    shared_eq := rfl
    reachable := .perform .restart (.perform (.setData _ _) h.reachable)
    current_eq := rfl
    steps_eq := rfl
    log_eq := rfl
    visits_eq := by
      simp [recycle, Machine.restart, h.reachable.length_visits, List.map_const'] }

/-- Where nothing is left of the run before, nothing tells the instance from a new
one. -/
theorem Clean.asNew
    {shared : Shared ω D}
    {owned : Owned ω D}
    (h : owned.Clean shared) :
    owned.AsNew owned.live.rules := by
  intro S w ops hrespect hrelated hops
  have hself := Machine.lockstep_self hrespect
  have hnew : owned.live.Repeats S
      { owned.shared.machine.newInstance w owned.live.data with
        rules := owned.live.rules } :=
    { current_eq := by rw [h.current_eq, h.shared_eq]; rfl
      steps_eq := h.steps_eq.symm
      visits_eq := by rw [h.visits_eq, h.shared_eq]; rfl
      data_eq := rfl
      log_eq := by rw [h.log_eq]; rfl
      rules_eq := rfl
      related := hrelated }
  have hinStep := (owned.shared.machine.eachFrom_of_forall hops owned.live).imp
    (Q := fun i op => op.InStep (fun _ => True) (Instance.Repeats S) i)
    fun i op hop => hop.inStep S i
  obtain ⟨hanswers, hend⟩ := hself.performAll hinStep hnew
  exact ⟨hanswers.symm, hend⟩

end Owned

namespace Pool

/-- One call on a pool. -/
inductive Call (ω D : Type) where
  | acquire
  | release (owned : Owned ω D) (reset : ω → D → ω × D)

/-- The pool after a call. -/
def perform (p : Pool ω D) : Call ω D → Pool ω D
  | .acquire => p.acquire.1
  | .release owned reset => (p.release owned reset).1

/-- The pool after calls one after the other. -/
def performAll (p : Pool ω D) (calls : List (Call ω D)) : Pool ω D :=
  calls.foldl perform p

/-- The call makes an instance, since none is parked. -/
def makes (p : Pool ω D) : Call ω D → Bool
  | .acquire => p.parked.isEmpty
  | .release _ _ => false

/-- The call hands out a parked instance. -/
def reuses (p : Pool ω D) : Call ω D → Bool
  | .acquire => !p.parked.isEmpty
  | .release _ _ => false

/-- The call parks an instance. -/
def takesBack (p : Pool ω D) : Call ω D → Bool
  | .acquire => false
  | .release owned _ => p.accepts owned

/-- How many calls pass a test at the pool that the calls before them leave behind. -/
def countCalls (test : Pool ω D → Call ω D → Bool) : Pool ω D → List (Call ω D) → Nat
  | _, [] => 0
  | p, call :: rest => (test p call).toNat + countCalls test (p.perform call) rest

section Calls

variable (p : Pool ω D)

theorem acquire_of_nil
    (h : p.parked = []) :
    p.acquire = ({ p with created := p.created + 1 },
      ⟨p.shared, p.shared.machine.newInstance (p.factory (p.created + 1)).1
        (p.factory (p.created + 1)).2⟩) := by
  simp [acquire, h]

theorem acquire_of_cons
    {owned : Owned ω D}
    {rest : List (Owned ω D)}
    (h : p.parked = owned :: rest) :
    p.acquire = ({ p with parked := rest }, owned) := by
  simp [acquire, h]

theorem accepts_iff
    (owned : Owned ω D) :
    p.accepts owned = true ↔
      owned.shared.machine.isComplete owned.live = true ∧
      owned.shared.identity = p.shared.identity := by
  simp [accepts]

theorem release_of_accepts
    {owned : Owned ω D}
    (h : p.accepts owned = true)
    (reset : ω → D → ω × D) :
    p.release owned reset =
      ({ p with parked := owned.recycle reset :: p.parked },
        (reset owned.live.surroundings owned.live.data).1, .ok ()) := by
  simp only [release, h, if_true]
  rfl

/-- An instance that is refused is not reset, and the pool stays as it is. -/
theorem release_of_refuses
    {owned : Owned ω D}
    (h : p.accepts owned = false)
    (reset : ω → D → ω × D) :
    p.release owned reset =
      (p, owned.live.surroundings, .error (.notParked owned.shared.machine.name
        ((owned.shared.machine.nameOf? owned.live.current).getD ""))) := by
  simp [release, h]

theorem release_fails_iff
    (owned : Owned ω D)
    (reset : ω → D → ω × D) :
    (∃ e, (p.release owned reset).2.2 = .error e) ↔
      owned.shared.machine.isComplete owned.live = false ∨
      owned.shared.identity ≠ p.shared.identity := by
  have hrefused : p.accepts owned = false ↔
      owned.shared.machine.isComplete owned.live = false ∨
      owned.shared.identity ≠ p.shared.identity := by
    rw [← Bool.not_eq_true, accepts_iff, not_and_or, Bool.not_eq_true]
  rw [← hrefused]
  cases haccepts : p.accepts owned with
  | true => simp [p.release_of_accepts haccepts]
  | false => simp [p.release_of_refuses haccepts]

/-- A release that fails leaves the pool and the surroundings as they are, whatever the
reset. -/
theorem release_of_error
    {owned : Owned ω D}
    {reset : ω → D → ω × D}
    {e : RunError}
    (h : (p.release owned reset).2.2 = .error e)
    (other : ω → D → ω × D) :
    p.release owned other = (p, owned.live.surroundings, .error e) := by
  cases haccepts : p.accepts owned with
  | true =>
      rw [p.release_of_accepts haccepts] at h
      cases h
  | false =>
      rw [p.release_of_refuses haccepts] at h ⊢
      rw [← h]

/-- A pool whose parked instances are clean hands out a clean one. -/
theorem clean_acquire
    (hclean : ∀ owned ∈ p.parked, owned.Clean p.shared) :
    p.acquire.2.Clean p.shared := by
  cases hparked : p.parked with
  | nil =>
      rw [p.acquire_of_nil hparked]
      exact Owned.clean_newInstance _ _ _
  | cons owned rest =>
      rw [p.acquire_of_cons hparked]
      exact hclean owned (by simp [hparked])

/-- What a call does, by the three calls that matter to the books of a pool. -/
theorem perform_cases
    (call : Call ω D) :
    (p.parked = [] ∧ call = .acquire ∧
      p.perform call = { p with created := p.created + 1 }) ∨
    (∃ owned rest, p.parked = owned :: rest ∧ call = .acquire ∧
      p.perform call = { p with parked := rest }) ∨
    (∃ owned reset, call = .release owned reset ∧ p.accepts owned = true ∧
      p.perform call = { p with parked := owned.recycle reset :: p.parked }) ∨
    ∃ owned reset, call = .release owned reset ∧ p.accepts owned = false ∧
      p.perform call = p := by
  cases call with
  | acquire =>
      cases hparked : p.parked with
      | nil =>
          exact .inl ⟨rfl, rfl, by simp [perform, p.acquire_of_nil hparked, hparked]⟩
      | cons owned rest =>
          exact .inr (.inl ⟨owned, rest, rfl, rfl, by
            rw [perform, p.acquire_of_cons hparked]⟩)
  | release owned reset =>
      cases haccepts : p.accepts owned with
      | true =>
          exact .inr (.inr (.inl ⟨owned, reset, rfl, haccepts, by
            rw [perform, p.release_of_accepts haccepts]⟩))
      | false =>
          exact .inr (.inr (.inr ⟨owned, reset, rfl, haccepts, by
            rw [perform, p.release_of_refuses haccepts]⟩))

theorem shared_perform
    (call : Call ω D) :
    (p.perform call).shared = p.shared := by
  rcases p.perform_cases call with
    ⟨-, -, h⟩ | ⟨_, _, -, -, h⟩ | ⟨_, _, -, -, h⟩ | ⟨_, _, -, -, h⟩ <;> rw [h]

theorem shared_performAll
    (calls : List (Call ω D)) :
    (p.performAll calls).shared = p.shared := by
  induction calls generalizing p with
  | nil => rfl
  | cons call rest ih => exact (ih _).trans (p.shared_perform call)

/-- One call enters itself in the books of the pool. -/
theorem books_perform
    (call : Call ω D) :
    (p.perform call).created = p.created + (p.makes call).toNat ∧
    (p.perform call).parked.length + (p.reuses call).toNat =
      p.parked.length + (p.takesBack call).toNat := by
  rcases p.perform_cases call with
    ⟨hparked, rfl, h⟩ | ⟨owned, rest, hparked, rfl, h⟩ | ⟨owned, reset, rfl, haccepts, h⟩ |
    ⟨owned, reset, rfl, haccepts, h⟩
  · simp [h, makes, reuses, takesBack, hparked]
  · simp [h, makes, reuses, takesBack, hparked]
  · simp [h, makes, reuses, takesBack, haccepts]
  · simp [h, makes, reuses, takesBack, haccepts]

theorem books_performAll
    (calls : List (Call ω D)) :
    (p.performAll calls).created = p.created + countCalls makes p calls ∧
    (p.performAll calls).parked.length + countCalls reuses p calls =
      p.parked.length + countCalls takesBack p calls := by
  induction calls generalizing p with
  | nil =>
      simp [performAll, countCalls]
  | cons call rest ih =>
      obtain ⟨hcreated, hparked⟩ := p.books_perform call
      obtain ⟨hlaterCreated, hlaterParked⟩ := ih (p.perform call)
      have hafter : p.performAll (call :: rest) = (p.perform call).performAll rest := rfl
      rw [hafter, countCalls, countCalls, countCalls]
      omega

/-- What holds of every instance that the pool parks on the way holds of those that are
parked in the end. -/
theorem forall_parked_performAll
    {P : Owned ω D → Prop}
    {calls : List (Call ω D)}
    (hstart : ∀ owned ∈ p.parked, P owned)
    (hrecycled : ∀ owned reset, .release owned reset ∈ calls →
      owned.shared.identity = p.shared.identity → P (owned.recycle reset)) :
    ∀ owned ∈ (p.performAll calls).parked, P owned := by
  induction calls generalizing p with
  | nil =>
      exact hstart
  | cons call rest ih =>
      refine ih (p.perform call) ?_ fun owned reset hmem hidentity =>
        hrecycled owned reset (List.mem_cons_of_mem _ hmem)
          (hidentity.trans (congrArg Shared.identity (p.shared_perform call)))
      rcases p.perform_cases call with
        ⟨-, -, h⟩ | ⟨owned, others, hparked, -, h⟩ | ⟨owned, reset, rfl, haccepts, h⟩ |
        ⟨owned, reset, -, -, h⟩
      · rw [h]
        exact hstart
      · rw [h]
        intro other hother
        exact hstart other (by rw [hparked]; exact List.mem_cons_of_mem _ hother)
      · rw [h]
        exact List.forall_mem_cons.2 ⟨hrecycled owned reset List.mem_cons_self
          ((p.accepts_iff owned).1 haccepts).2, hstart⟩
      · rw [h]
        exact hstart

/-- An instance that a new pool has come to park was released by one of the calls, and
is clean. -/
theorem exists_release_of_parked
    (hempty : p.parked = [])
    {calls : List (Call ω D)}
    (hgenuine : ∀ owned reset, .release owned reset ∈ calls → owned.Genuine p.shared)
    {owned : Owned ω D}
    (howned : owned ∈ (p.performAll calls).parked) :
    owned.Clean p.shared ∧ ∃ released reset, .release released reset ∈ calls ∧
      owned = released.recycle reset := by
  refine p.forall_parked_performAll (P := fun owned => owned.Clean p.shared ∧
    ∃ released reset, .release released reset ∈ calls ∧ owned = released.recycle reset)
    ?_ ?_ owned howned
  · simp [hempty]
  · intro owned reset hmem hidentity
    exact ⟨(hgenuine owned reset hmem).clean_recycle hidentity reset,
      owned, reset, hmem, rfl⟩

end Calls

/-- What can be said of a pool after calls on a new one. -/
structure Tidy (new : Pool ω D) (calls : List (Call ω D)) (p : Pool ω D) : Prop where
  clean : ∀ owned ∈ p.parked, owned.Clean new.shared
  hands_out : p.acquire.2.Clean new.shared
  fails_iff : ∀ owned reset, (∃ e, (p.release owned reset).2.2 = .error e) ↔
    owned.shared.machine.isComplete owned.live = false ∨
    owned.shared.identity ≠ new.shared.identity
  untouched : ∀ owned reset e, (p.release owned reset).2.2 = .error e →
    ∀ other, p.release owned other = (p, owned.live.surroundings, .error e)
  created_eq : p.created = countCalls makes new calls
  reuses_le : countCalls reuses new calls ≤ countCalls takesBack new calls
  parked_eq : p.parked.length =
    countCalls takesBack new calls - countCalls reuses new calls
  as_new : p.parked ≠ [] → ∃ released reset,
    .release released reset ∈ calls ∧
    p.acquire.2.live.data = (reset released.live.surroundings released.live.data).2 ∧
    p.acquire.2.AsNew released.live.rules

/-- Whatever instances are released to a pool, what it keeps is clean: it refuses
unfinished and foreign instances without touching anything, its two counts agree with
the calls, and an instance that it hands out again cannot be told from a new one with
the data that the reset made and the rules of the one that was released. -/
theorem tidy_of_calls
    (shared : Shared ω D)
    (factory : Nat → ω × D)
    {calls : List (Call ω D)}
    (hgenuine : ∀ owned reset, .release owned reset ∈ calls → owned.Genuine shared) :
    Tidy { shared, factory } calls (performAll { shared, factory } calls) := by
  generalize hnew : ({ shared, factory } : Pool ω D) = new
  obtain rfl : new.shared = shared := by rw [← hnew]
  have hempty : new.parked = [] ∧ new.created = 0 := by
    rw [← hnew]
    exact ⟨rfl, rfl⟩
  have hshared := new.shared_performAll calls
  obtain ⟨hcreated, hparked⟩ := new.books_performAll calls
  rw [hempty.2, Nat.zero_add] at hcreated
  rw [hempty.1, List.length_nil, Nat.zero_add] at hparked
  have hkept : ∀ owned ∈ (new.performAll calls).parked,
      owned.Clean new.shared ∧ ∃ released reset, .release released reset ∈ calls ∧
        owned = released.recycle reset :=
    fun _ howned => new.exists_release_of_parked hempty.1 hgenuine howned
  exact {
    clean := fun owned howned => (hkept owned howned).1
    hands_out := by
      rw [← hshared]
      apply clean_acquire
      rw [hshared]
      exact fun owned howned => (hkept owned howned).1
    fails_iff := by
      intro owned reset
      rw [release_fails_iff, hshared]
    untouched := fun _ _ _ he => release_of_error _ he
    created_eq := hcreated
    reuses_le := by omega
    parked_eq := by omega
    as_new := by
      intro hsome
      obtain ⟨owned, rest, hfirst⟩ := List.exists_cons_of_ne_nil hsome
      rw [acquire_of_cons _ hfirst]
      obtain ⟨hclean, released, reset, hmem, rfl⟩ := hkept owned (by simp [hfirst])
      exact ⟨released, reset, hmem, rfl, hclean.asNew⟩ }

/-! ### The small machine in a pool -/

/-- The small machine with an identity. -/
def smallShared (identity : Nat) : Shared Nat Nat :=
  ⟨identity, Blueprint.retryMachine⟩

/-- A finished run of the small machine that had a quota to meet. -/
def finishedRun (identity : Nat) : Owned Nat Nat :=
  ⟨smallShared identity, (Blueprint.retryMachine.perform (.runToCompletion 10)
    (Blueprint.retryMachine.perform (.requireVisits "Init" 3)
      (Blueprint.retryMachine.newInstance 0 0)).1).1⟩

/-- A run of the small machine that has not begun. -/
def idleRun : Owned Nat Nat :=
  ⟨smallShared 0, Blueprint.retryMachine.newInstance 0 0⟩

/-- Calls of all kinds: a finished run comes back, a foreign one and an unfinished one
are refused, and of two instances that are wanted then one has to be made. -/
def smallCalls : List (Call Nat Nat) :=
  [.acquire, .release (finishedRun 0) fun calls _ => (calls, 1),
    .release (finishedRun 1) fun calls _ => (calls, 2),
    .release idleRun fun calls _ => (calls, 3), .acquire, .acquire,
    .release (finishedRun 0) fun calls _ => (calls, 4)]

theorem tidy_smallCalls :
    ∃ p : Pool Nat Nat,
      p = performAll { shared := smallShared 0, factory := fun n => (0, n) } smallCalls ∧
      p.created = 2 ∧
      p.parked.length = 1 ∧
      p.acquire.2.live.data = 4 ∧
      p.acquire.2.live.rules.quotas.get? 0 = some 3 ∧
      Tidy { shared := smallShared 0, factory := fun n => (0, n) } smallCalls p := by
  have hgenuine : ∀ owned reset, .release owned reset ∈ smallCalls →
      owned.Genuine (smallShared 0) := by
    have hfinished : ∀ identity,
        Blueprint.retryMachine.Reachable (finishedRun identity).live :=
      fun identity => .perform _ (.perform _ (.start 0 0))
    intro owned reset hmem
    simp only [smallCalls, List.mem_cons, reduceCtorEq, Call.release.injEq,
      List.not_mem_nil, or_false, false_or] at hmem
    rcases hmem with ⟨rfl, -⟩ | ⟨rfl, -⟩ | ⟨rfl, -⟩ | ⟨rfl, -⟩
    · exact ⟨hfinished 0, fun _ => rfl⟩
    · exact ⟨hfinished 1, fun h => absurd h (by decide)⟩
    · exact ⟨.start 0 0, fun _ => rfl⟩
    · exact ⟨hfinished 0, fun _ => rfl⟩
  exact ⟨_, rfl, by decide +kernel, by decide +kernel, by decide +kernel,
    by decide +kernel, tidy_of_calls (smallShared 0) _ hgenuine⟩

end Pool
end Flowchart

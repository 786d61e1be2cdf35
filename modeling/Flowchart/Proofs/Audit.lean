import Flowchart.Instance.Run
import Flowchart.Proofs.Entries
import Flowchart.Proofs.Flow
import Flowchart.Proofs.Integrity
import Mathlib.Data.List.Sort

/-!
# The audit at the end of a run

A machine that has halted is audited: the visits of every state with a quota must be as
many as the quota says.  The check goes through the quotas as they are kept.  They are
kept in the order of the states, each for a state of the machine, so the check is a pass
over the states as they were declared.
-/

namespace Flowchart

variable {ω D : Type}

namespace Limits

/-- Where the order is kept, a state has the number of its entry. -/
theorem get?_eq_some_iff
    {l : Limits}
    (h : Entries.Ascending l.entries)
    (s : StateId)
    (n : Nat) :
    l.get? s = some n ↔ (s, n) ∈ l.entries :=
  Entries.lookup_eq_some_iff_mem h.nodup_keys s n

/-- Entries in order are those of the states, one state after the other. -/
theorem entries_eq
    {l : Limits}
    (h : Entries.Ascending l.entries)
    {count : Nat}
    (hlt : ∀ e ∈ l.entries, e.1 < count) :
    l.entries = (List.range count).filterMap fun s => (l.get? s).map fun n => (s, n) := by
  have hstates : ((List.range count).filterMap fun s =>
      (l.get? s).map fun n => (s, n)).Pairwise fun e f => e.1 < f.1 := by
    refine List.Pairwise.filterMap _ ?_ List.pairwise_lt_range
    intro s t hst e he f hf
    obtain ⟨n, -, rfl⟩ := Option.map_eq_some_iff.1 he
    obtain ⟨k, -, rfl⟩ := Option.map_eq_some_iff.1 hf
    exact hst
  have hirrefl : Std.Irrefl fun e f : StateId × Nat => e.1 < f.1 :=
    ⟨fun e => Nat.lt_irrefl e.1⟩
  have hantisymm : Std.Antisymm fun e f : StateId × Nat => e.1 < f.1 :=
    ⟨fun e f hef hfe => absurd hfe (Nat.lt_asymm hef)⟩
  apply h.eq_of_mem_iff hstates
  rintro ⟨s, n⟩
  simp only [List.mem_filterMap, List.mem_range, Option.map_eq_some_iff, Prod.mk.injEq,
    get?_eq_some_iff h]
  constructor
  · intro hmem
    exact ⟨s, hlt _ hmem, n, hmem, rfl, rfl⟩
  · rintro ⟨_, -, _, hmem, rfl, rfl⟩
    exact hmem

end Limits

namespace Machine

/-- The quotas that an instance does not meet, in the order in which their states are
declared. -/
def mismatches (m : Machine ω D) (i : Instance ω D) : List Violation :=
  (List.range m.states.length).filterMap fun s =>
    (i.rules.quotas.get? s).bind fun quota =>
      if i.visits[s]? = some quota then none
      else some (.wrongVisitCount (m.label s) quota (i.visits.getD s 0))

/-- How a run ends that halts where the instance is. -/
def audit (m : Machine ω D) (i : Instance ω D) : Ending :=
  if m.mismatches i = [] then .done
  else .failed (.visitCountMismatch (m.mismatches i))

end Machine

namespace Blueprint

variable {b : Blueprint ω D} {m : Machine ω D}

theorem quotas_ascending_of_reachable
    {i : Instance ω D}
    (hi : m.Reachable i) :
    Entries.Ascending i.rules.quotas.entries := by
  apply hi.rules_invariant
    (P := fun rules => Entries.Ascending rules.quotas.entries)
  · exact .nil
  · intro rules rules' hedit hascending
    cases hedit with
    | keep | cap =>
        exact hascending
    | quota hid visits =>
        exact hascending.insert _ visits
    | clear =>
        exact .nil

/-- The check of the quotas finds the states whose visits do not come to their quota. -/
theorem unmet_eq_mismatches
    (hbuild : b.build = .ok m)
    {i : Instance ω D}
    (hi : m.Reachable i) :
    i.rules.unmet m.label i.visits = m.mismatches i := by
  rw [VisitRules.unmet, Limits.entries_eq (quotas_ascending_of_reachable hi)
    (quotasDeclared_of_reachable hbuild hi), List.filterMap_filterMap, Machine.mismatches]
  apply List.filterMap_congr
  intro s hs
  have hlt : s < i.visits.length := by
    rw [hi.length_visits]
    exact List.mem_range.1 hs
  cases i.rules.quotas.get? s with
  | none =>
      rfl
  | some quota =>
      simp [hlt]

theorem ofExcept_checkQuotas
    (hbuild : b.build = .ok m)
    {i : Instance ω D}
    (hi : m.Reachable i) :
    .ofExcept (m.checkQuotas i) = m.audit i := by
  unfold Machine.checkQuotas Machine.audit
  rw [unmet_eq_mismatches hbuild hi]
  cases m.mismatches i with
  | nil => rfl
  | cons violation rest => rfl

/-- The audit is passed where every quota is the number of the visits of its state. -/
theorem audit_eq_done_iff
    (hbuild : b.build = .ok m)
    {i : Instance ω D}
    (hi : m.Reachable i) :
    m.audit i = .done ↔
      ∀ s quota, i.rules.quotas.get? s = some quota → i.visits[s]? = some quota := by
  have hnone : m.audit i = .done ↔ m.mismatches i = [] := by
    unfold Machine.audit
    split_ifs with h <;> simp [h]
  rw [hnone, Machine.mismatches, List.filterMap_eq_nil_iff]
  constructor
  · intro h s quota hquota
    have hascending := quotas_ascending_of_reachable hi
    have hmem := (Limits.get?_eq_some_iff hascending s quota).1 hquota
    have hlt := quotasDeclared_of_reachable hbuild hi _ hmem
    simpa [hquota] using h s (List.mem_range.2 hlt)
  · intro h s _
    cases hquota : i.rules.quotas.get? s with
    | none => rfl
    | some quota => simp [h s quota hquota]

end Blueprint
end Flowchart

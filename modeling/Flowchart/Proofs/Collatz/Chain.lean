import Flowchart.Collatz.Search
import Mathlib.Logic.Function.Iterate

/-!
# Chains that come to 1

Whether each chain comes to 1 is not known.  `Falls` says of one start that its chain
does, and after how many terms.  A chain that falls is the same under every bound that
does not cut it off, and a start whose iterates come to 1 has one.
-/

namespace Flowchart
namespace Collatz

/-- The chain of a start comes to 1, with a number of terms. -/
inductive Falls : (start terms : Nat) → Prop
  | one :
      Falls 1 1
  | more {n terms : Nat} (hlt : 1 < n) (hnext : Falls (next n) terms) :
      Falls n (terms + 1)

/-- The first iterate that is 1 makes the last term. -/
structure FirstAtOne (n terms : Nat) : Prop where
  pos : 0 < terms
  one : next^[terms - 1] n = 1
  first : ∀ k < terms - 1, next^[k] n ≠ 1

namespace Falls

variable {n terms : Nat}

theorem start_pos
    (h : Falls n terms) :
    0 < n := by
  cases h <;> omega

theorem terms_pos
    (h : Falls n terms) :
    0 < terms := by
  cases h <;> omega

/-- A start has at most one number of terms. -/
theorem unique
    {terms' : Nat}
    (h : Falls n terms)
    (h' : Falls n terms') :
    terms = terms' := by
  induction h generalizing terms' with
  | one =>
      cases h' with
      | one => rfl
      | more hlt _ => omega
  | more hlt _ ih =>
      cases h' with
      | one => omega
      | more _ hnext => rw [ih hnext]

/-- A bound that leaves room for the chain does not cut it off. -/
theorem chain_eq
    (h : Falls n terms)
    {bound : Nat}
    (hbound : terms ≤ bound + 1) :
    (chain bound n).length = terms ∧ (chain bound n).getLast? = some 1 := by
  induction h generalizing bound with
  | one =>
      cases bound <;> simp [chain]
  | more hlt hnext ih =>
      have hpos := hnext.terms_pos
      obtain ⟨bound, rfl⟩ : ∃ rest, bound = rest + 1 := ⟨bound - 1, by omega⟩
      obtain ⟨hlength, hlast⟩ := @ih bound (by omega)
      simp [chain, hlt, List.getLast?_cons, hlength, hlast]

theorem firstAtOne
    (h : Falls n terms) :
    FirstAtOne n terms := by
  induction h with
  | one =>
      exact ⟨by omega, rfl, by simp⟩
  | @more n terms hlt hnext ih =>
      obtain ⟨rest, rfl⟩ : ∃ rest, terms = rest + 1 :=
        ⟨terms - 1, by have := ih.pos; omega⟩
      refine ⟨by omega, ih.one, ?_⟩
      intro k hk
      cases k with
      | zero => exact Nat.ne_of_gt hlt
      | succ k => exact ih.first k (by simpa using hk)

end Falls

/-- A start whose iterates come to 1 has a chain that falls. -/
theorem exists_falls_of_iterate
    {n k : Nat}
    (h : next^[k] n = 1) :
    ∃ terms, Falls n terms := by
  induction k generalizing n with
  | zero =>
      obtain rfl : n = 1 := h
      exact ⟨1, .one⟩
  | succ k ih =>
      obtain ⟨terms, hnext⟩ := ih (n := next n) h
      have hnext_pos := hnext.start_pos
      rcases Nat.lt_trichotomy n 1 with hzero | rfl | hlt
      · obtain rfl : n = 0 := by omega
        exact absurd hnext_pos (by decide)
      · exact ⟨1, .one⟩
      · exact ⟨terms + 1, .more hlt hnext⟩

/-- The number of terms of a chain, in three ways: by its terms one after the other, by
the first iterate that is 1, and by the list of its terms under each bound. -/
structure CountsTerms (n terms : Nat) : Prop where
  falls : Falls n terms
  first : FirstAtOne n terms
  chain_eq : ∀ bound, terms ≤ bound + 1 →
    (chain bound n).length = terms ∧ (chain bound n).getLast? = some 1

theorem Falls.countsTerms
    {n terms : Nat}
    (h : Falls n terms) :
    CountsTerms n terms where
  falls := h
  first := h.firstAtOne
  chain_eq _ hbound := h.chain_eq hbound

end Collatz
end Flowchart

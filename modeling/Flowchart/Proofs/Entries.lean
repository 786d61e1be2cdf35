import Flowchart.Entries
import Mathlib.Data.List.Nodup

/-!
# Looking up entries

What is found under a key: the first entry that has it.  An entry that is put in its place
is found from then on, and nothing else changes.

Where the keys ascend no key stands twice, so that looking up is membership, and entries
that are put in their places keep this order.
-/

namespace Flowchart
namespace Entries

variable {κ α : Type}

/-! ### The first entry of a key -/

section Lookup

variable [BEq κ] [LawfulBEq κ]

/-- Looking up past an entry, as a condition on the keys. -/
theorem lookup_cons_eq
    [DecidableEq κ]
    (first key : κ)
    (value : α)
    (rest : List (κ × α)) :
    ((first, value) :: rest).lookup key =
      if key = first then some value else rest.lookup key := by
  by_cases hkey : key = first
  · simp [hkey]
  · simp [List.lookup_cons, beq_false_of_ne hkey, hkey]

theorem lookup_isSome_iff
    (key : κ)
    (entries : List (κ × α)) :
    (entries.lookup key).isSome ↔ key ∈ entries.map Prod.fst := by
  rw [List.lookup_isSome_iff, List.mem_map]
  exact exists_congr fun entry => and_congr_right fun _ => beq_iff_eq.trans eq_comm

/-- Taking entries away by their keys leaves what is found under another key. -/
theorem lookup_filter_keys
    [DecidableEq κ]
    (keep : κ → Bool)
    {key : κ}
    (hkeep : keep key = true)
    (entries : List (κ × α)) :
    (entries.filter fun r => keep r.1).lookup key = entries.lookup key := by
  induction entries with
  | nil =>
      rfl
  | cons entry rest ih =>
      obtain ⟨first, value⟩ := entry
      rw [List.filter_cons, lookup_cons_eq]
      by_cases hfirst : keep first = true
      · rw [if_pos hfirst, lookup_cons_eq, ih]
      · have hother : key ≠ first := by
          rintro rfl
          exact hfirst hkeep
        rw [if_neg hfirst, if_neg hother, ih]

/-- Where no key stands twice, looking a key up is membership. -/
theorem lookup_eq_some_iff_mem
    [DecidableEq κ]
    {entries : List (κ × α)}
    (hnodup : (entries.map Prod.fst).Nodup)
    (key : κ)
    (value : α) :
    entries.lookup key = some value ↔ (key, value) ∈ entries := by
  induction entries with
  | nil =>
      simp
  | cons entry rest ih =>
      obtain ⟨first, own⟩ := entry
      obtain ⟨hfresh, hrest⟩ := List.nodup_cons.1 hnodup
      rw [lookup_cons_eq, List.mem_cons, Prod.mk.injEq]
      by_cases hkey : key = first
      · subst hkey
        have hnone : (key, value) ∉ rest := by
          intro hmem
          exact hfresh (List.mem_map.2 ⟨_, hmem, rfl⟩)
        simp [hnone, eq_comm]
      · simp [hkey, ih hrest]

end Lookup

/-! ### Putting entries in their places -/

section Insert

variable [LT κ] [DecidableLT κ] [DecidableEq κ]

/-- An entry that is put in its place replaces the one of its key, and no other. -/
theorem lookup_insert
    [BEq κ]
    [LawfulBEq κ]
    (own key : κ)
    (value : α)
    (entries : List (κ × α)) :
    (insert own value entries).lookup key =
      if key = own then some value else entries.lookup key := by
  induction entries with
  | nil =>
      rw [insert, lookup_cons_eq]
  | cons entry rest ih =>
      obtain ⟨first, other⟩ := entry
      rw [insert]
      by_cases hlt : own < first
      · rw [if_pos hlt, lookup_cons_eq]
      · rw [if_neg hlt]
        by_cases hsame : own = first
        · subst hsame
          rw [if_pos rfl, lookup_cons_eq, lookup_cons_eq]
          by_cases hkey : key = own <;> simp [hkey]
        · rw [if_neg hsame, lookup_cons_eq, lookup_cons_eq, ih]
          by_cases hkey : key = own
          · subst hkey
            simp [hsame]
          · simp [hkey]

theorem mem_insert
    {key : κ}
    {value : α}
    {entries : List (κ × α)}
    {entry : κ × α}
    (h : entry ∈ insert key value entries) :
    entry = (key, value) ∨ entry ∈ entries := by
  induction entries with
  | nil =>
      simpa [insert] using h
  | cons first rest ih =>
      unfold insert at h
      split_ifs at h
      · exact List.mem_cons.1 h
      · exact (List.mem_cons.1 h).imp_right (.tail _)
      · rcases List.mem_cons.1 h with rfl | h
        · exact .inr (.head _)
        · exact (ih h).imp_right (.tail _)

end Insert

/-! ### Ascending keys -/

/-- The entries are in the order of their keys, with no more than one for each. -/
def Ascending [LT κ] (entries : List (κ × α)) : Prop :=
  entries.Pairwise fun e f => e.1 < f.1

section Order

variable [LE κ] [LT κ] [Std.LawfulOrderLT κ]

theorem Ascending.nodup_keys
    {entries : List (κ × α)}
    (h : Ascending entries) :
    (entries.map Prod.fst).Nodup := by
  refine List.pairwise_map.2 (List.Pairwise.imp ?_ h)
  intro e f hlt heq
  rw [heq] at hlt
  exact Std.lt_irrefl hlt

theorem Ascending.insert
    [Std.IsLinearOrder κ]
    [DecidableLT κ]
    [DecidableEq κ]
    {entries : List (κ × α)}
    (h : Ascending entries)
    (key : κ)
    (value : α) :
    Ascending (insert key value entries) := by
  induction entries with
  | nil =>
      simp [Entries.insert, Ascending]
  | cons first rest ih =>
      obtain ⟨hfirst, hrest⟩ := List.pairwise_cons.1 h
      unfold Entries.insert
      split_ifs with hlt hsame
      · refine List.pairwise_cons.2 ⟨?_, h⟩
        intro entry hentry
        rcases List.mem_cons.1 hentry with rfl | hentry
        · exact hlt
        · exact Std.lt_trans hlt (hfirst entry hentry)
      · subst hsame
        exact List.pairwise_cons.2 ⟨hfirst, hrest⟩
      · refine List.pairwise_cons.2 ⟨?_, ih hrest⟩
        intro entry hentry
        rcases mem_insert hentry with rfl | hentry
        · exact Std.lt_of_le_of_ne (Std.not_lt.1 hlt) (Ne.symm hsame)
        · exact hfirst entry hentry

end Order

end Entries
end Flowchart

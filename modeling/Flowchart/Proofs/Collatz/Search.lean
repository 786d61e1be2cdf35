import Flowchart.Proofs.Collatz.Chain
import Flowchart.Proofs.Collatz.Stages

/-!
# The chain search is right

The books of a search are its known lengths and its pending numbers.  `Kept` says what
holds of them once the search has begun: each known length is that of a chain, and what
is pending is what was entered as pending and has no known length yet.

A number on the stack gets its length by induction on its chain.  When all stacked
numbers have theirs, the search looks at the least pending number, and all numbers below
it are known then.
-/

namespace Flowchart
namespace Collatz

open Relation (ReflTransGen)

namespace Search

variable {s s' : Search} {q : Nat} {rest : List Nat}

theorem mem_foldl_insert
    (numbers : List Nat)
    (pending : Std.TreeSet Nat)
    (n : Nat) :
    n ∈ numbers.foldl .insert pending ↔ n ∈ numbers ∨ n ∈ pending := by
  induction numbers generalizing pending with
  | nil =>
      simp
  | cons m rest ih =>
      rw [List.foldl_cons, ih, Std.TreeSet.mem_insert, List.mem_cons, Nat.compare_eq_eq,
        eq_comm (a := m), or_left_comm, or_assoc]

/-- The search after the length of its top number was entered. -/
def entered (s : Search) (q terms : Nat) : Search :=
  { s with
    lengths := s.lengths.insert q terms
    pending := s.pending.erase q }

theorem mem_lengths_entered
    (s : Search)
    (q terms n : Nat) :
    n ∈ (s.entered q terms).lengths ↔ q = n ∨ n ∈ s.lengths := by
  simp [entered, Std.TreeMap.mem_insert]

theorem lengths_entered
    (s : Search)
    (q terms n : Nat) :
    (s.entered q terms).lengths[n]? = if q = n then some terms else s.lengths[n]? := by
  simp [entered, Std.TreeMap.getElem?_insert]

theorem mem_pending_entered
    (s : Search)
    (q terms n : Nat) :
    n ∈ (s.entered q terms).pending ↔ q ≠ n ∧ n ∈ s.pending := by
  simp [entered, Std.TreeSet.mem_erase]

/-- What holds of the books of a search that has begun. -/
structure Kept (s : Search) : Prop where
  one : 1 ∈ s.lengths
  falls : ∀ n terms, s.lengths[n]? = some terms → Falls n terms
  pending : ∀ n, n ∈ s.pending ↔ (2 ≤ n ∧ n < s.target + 100) ∧ n ∉ s.lengths

namespace Kept

/-- The stack is not in the books. -/
theorem requeue
    (hs : s.Kept)
    (queries : List Nat) :
    Kept { s with queries := queries } :=
  ⟨hs.one, hs.falls, hs.pending⟩

theorem exists_terms
    (hs : s.Kept)
    {n : Nat}
    (hn : n ∈ s.lengths) :
    ∃ terms, s.lengths[n]? = some terms ∧ Falls n terms := by
  obtain ⟨terms, hterms⟩ :=
    Option.isSome_iff_exists.1 (Std.TreeMap.mem_iff_isSome_getElem?.1 hn)
  exact ⟨terms, hterms, hs.falls n terms hterms⟩

/-- The length of a chain may be entered in the books. -/
theorem enter
    (hs : s.Kept)
    {terms : Nat}
    (hq : Falls q terms) :
    (s.entered q terms).Kept where
  one := (mem_lengths_entered _ _ _ _).2 (.inr hs.one)
  falls := by
    intro n length hlength
    rw [lengths_entered] at hlength
    split_ifs at hlength with hn
    · obtain rfl := hn
      obtain rfl := Option.some.inj hlength
      exact hq
    · exact hs.falls n length hlength
  pending := by
    intro n
    rw [mem_pending_entered, hs.pending, mem_lengths_entered, not_or]
    exact and_left_comm

end Kept

theorem mem_lengths_begin
    {target n : Nat} :
    n ∈ (begin { target := target }).lengths ↔ n = 1 := by
  simp [begin, Std.TreeMap.mem_insert, eq_comm (a := n)]

theorem mem_pending_begin
    {target n : Nat} :
    n ∈ (begin { target := target }).pending ↔ 2 ≤ n ∧ n < target + 100 := by
  have hrange : 2 + (target + 98) = target + 100 := by omega
  simp [begin, mem_foldl_insert, List.mem_range'_1, hrange]

/-- A search begins without known lengths, pending numbers and queries. -/
theorem kept_begin
    (target : Nat) :
    (begin { target := target }).Kept where
  one := mem_lengths_begin.2 rfl
  falls := by
    intro n terms hterms
    obtain rfl := mem_lengths_begin.1
      (Std.TreeMap.mem_iff_isSome_getElem?.2 (Option.isSome_of_mem hterms))
    obtain rfl : 1 = terms := by simpa [begin] using hterms
    exact .one
  pending := by
    intro n
    rw [mem_pending_begin, mem_lengths_begin]
    exact ⟨fun h => ⟨h, by omega⟩, And.left⟩

/-! ### One query -/

theorem leads_ask
    (hqueries : s.queries = q :: rest) :
    Leads (.nextQueryInCache, s)
      (if next q ∈ s.lengths then .addResultToCache else .addQueryToStack, s) := by
  have hknown : s.isSuccessorKnown = .ok (s.lengths.contains (next q)) := by
    unfold isSuccessorKnown top
    rw [hqueries]
    rfl
  refine ⟨by simp, ?_⟩
  simp only [tick, hknown, Except.map, Std.TreeMap.mem_iff_contains]

theorem leads_enter
    (hqueries : s.queries = q :: rest)
    {terms : Nat}
    (hterms : s.lengths[next q]? = some terms) :
    Leads (.addResultToCache, s) (.pollQueryStack, s.entered q (terms + 1)) := by
  have henter : s.enterLength = .ok (s.entered q (terms + 1)) := by
    unfold enterLength top
    rw [hqueries]
    simp only [hterms, bind, Except.bind, ← hqueries]
    rfl
  exact ⟨by simp, by simp only [tick, henter, Except.map]⟩

theorem leads_push
    (hqueries : s.queries = q :: rest) :
    Leads (.addQueryToStack, s)
      (.nextQueryInCache, { s with queries := next q :: s.queries }) := by
  have hpush : s.pushSuccessor = .ok { s with queries := next q :: s.queries } := by
    unfold pushSuccessor top
    rw [hqueries]
    rfl
  exact ⟨by simp, by simp only [tick, hpush, Except.map]⟩

theorem leads_queryStackEmpty :
    Leads (.queryStackEmpty, s)
      (if s.isStackEmpty then .isNextAboveTarget else .nextQueryInCache, s) :=
  ⟨by simp, rfl⟩

/-- What a query changes: its number is known, and is off the stack. -/
structure Answered (s : Search) (q : Nat) (rest : List Nat) (s' : Search) : Prop where
  kept : s'.Kept
  target_eq : s'.target = s.target
  queries_eq : s'.queries = rest
  known : q ∈ s'.lengths
  grows : ∀ n, n ∈ s.lengths → n ∈ s'.lengths

/-- The stack that a query finds does not matter afterwards. -/
theorem Answered.of_requeued
    {queries : List Nat}
    (h : Answered { s with queries := queries } q rest s') :
    Answered s q rest s' :=
  ⟨h.kept, h.target_eq, h.queries_eq, h.known, h.grows⟩

theorem Answered.trans
    {p : Nat}
    {waiting : List Nat}
    {t : Search}
    (hfirst : Answered s p waiting t)
    (hsecond : Answered t q rest s') :
    Answered s q rest s' where
  kept := hsecond.kept
  target_eq := hsecond.target_eq.trans hfirst.target_eq
  queries_eq := hsecond.queries_eq
  known := hsecond.known
  grows := fun n hn => hsecond.grows n (hfirst.grows n hn)

/-- A number whose successor is known gets its length. -/
theorem answered_of_known
    (hs : s.Kept)
    (hqueries : s.queries = q :: rest)
    (hq : 1 < q)
    (hknown : next q ∈ s.lengths) :
    ∃ s', ReflTransGen Leads (.nextQueryInCache, s) (.queryStackEmpty, s') ∧
      Answered s q rest s' := by
  obtain ⟨terms, hterms, hnext⟩ := hs.exists_terms hknown
  have hask := leads_ask hqueries
  rw [if_pos hknown] at hask
  have henter := leads_enter hqueries hterms
  have hpop : Leads (.pollQueryStack, s.entered q (terms + 1))
      (.queryStackEmpty, (s.entered q (terms + 1)).pop) :=
    ⟨by simp, rfl⟩
  refine ⟨_, .head hask (.head henter (.single hpop)), ?_⟩
  exact {
    kept := (hs.enter (.more hq hnext)).requeue _
    target_eq := rfl
    queries_eq := by simp [entered, pop, hqueries]
    known := (mem_lengths_entered _ _ _ _).2 (.inl rfl)
    grows := fun n hn => (mem_lengths_entered _ _ _ _).2 (.inr hn) }

/-- A number on the stack gets its length, by induction on its chain. -/
theorem answered_of_falls
    {terms : Nat}
    (hfalls : Falls q terms)
    (hs : s.Kept)
    (hqueries : s.queries = q :: rest)
    (hq : 1 < q) :
    ∃ s', ReflTransGen Leads (.nextQueryInCache, s) (.queryStackEmpty, s') ∧
      Answered s q rest s' := by
  induction hfalls generalizing s rest with
  | one =>
      omega
  | @more q terms _ hnext ih =>
      by_cases hknown : next q ∈ s.lengths
      · exact answered_of_known hs hqueries hq hknown
      · -- the successor is seen to first, above the number on the stack
        have hask := leads_ask hqueries
        rw [if_neg hknown] at hask
        have hpush := leads_push hqueries
        have hnext_lt : 1 < next q := by
          have hpos := hnext.start_pos
          have hne : next q ≠ 1 := fun hone => hknown (hone ▸ hs.one)
          omega
        obtain ⟨seen, hseen, hanswered⟩ := ih (hs.requeue _) rfl hnext_lt
        have hwaiting : seen.queries = q :: rest := hanswered.queries_eq.trans hqueries
        have hreturn := leads_queryStackEmpty (s := seen)
        rw [if_neg (by simp [isStackEmpty, hwaiting])] at hreturn
        obtain ⟨s', hs', hanswered'⟩ :=
          answered_of_known hanswered.kept hwaiting hq hanswered.known
        refine ⟨s', .head hask (.head hpush (hseen.trans (.head hreturn hs'))), ?_⟩
        exact (hanswered.trans hanswered').of_requeued

/-! ### All queries -/

theorem min?_pending
    (hmin : s.pending.min? = some q) :
    q ∈ s.pending ∧ ∀ n ∈ s.pending, q ≤ n := by
  obtain ⟨hmem, hle⟩ := Std.TreeSet.min?_eq_some_iff_mem_and_forall.1 hmin
  exact ⟨hmem, fun n hn => Nat.isLE_compare.1 (hle n hn)⟩

theorem leads_probe
    (hmin : s.pending.min? = some q) :
    Leads (.addNextProbeToStack, s)
      (.nextQueryInCache, { s with queries := s.queries ++ [q] }) := by
  have hprobe : s.pushProbe = .ok { s with queries := s.queries ++ [q] } := by
    simp only [pushProbe, hmin]
  exact ⟨by simp, by simp only [tick, hprobe, Except.map]⟩

theorem leads_isNextAboveTarget :
    Leads (.isNextAboveTarget, s)
      (if s.isTargetReached then .calcComplete else .addNextProbeToStack, s) :=
  ⟨by simp, rfl⟩

/-- The least pending number gets its length, and the stack is empty again. -/
theorem answered_of_probe
    (hs : s.Kept)
    (hqueries : s.queries = [])
    (hmin : s.pending.min? = some q)
    {terms : Nat}
    (hfalls : Falls q terms) :
    ∃ s', ReflTransGen Leads (.addNextProbeToStack, s) (.isNextAboveTarget, s') ∧
      Answered s q [] s' := by
  have hq : 1 < q := ((hs.pending q).1 (min?_pending hmin).1).1.1
  have hprobe := leads_probe hmin
  rw [hqueries, List.nil_append] at hprobe
  obtain ⟨s', hs', hanswered⟩ := answered_of_falls hfalls (hs.requeue [q]) rfl hq
  have hleave := leads_queryStackEmpty (s := s')
  rw [if_pos (by simp [isStackEmpty, hanswered.queries_eq])] at hleave
  exact ⟨s', .head hprobe (hs'.tail hleave), hanswered.of_requeued⟩

/-- What has been reached when the search ends. -/
structure Finished (s : Search) : Prop where
  kept : s.Kept
  known : ∀ n, 1 ≤ n → n ≤ s.target → n ∈ s.lengths

/-- Where no pending number is up to the target, every number up to it is known. -/
theorem finished_of_isTargetReached
    (hs : s.Kept)
    (hreached : s.isTargetReached = true) :
    s.Finished where
  kept := hs
  known := by
    intro n hpos hle
    by_contra hunknown
    have hne : n ≠ 1 := fun hone => hunknown (hone ▸ hs.one)
    have hpending : n ∈ s.pending :=
      (hs.pending n).2 ⟨⟨by omega, by omega⟩, hunknown⟩
    unfold isTargetReached at hreached
    cases hmin : s.pending.min? with
    | none =>
        have hempty := Std.TreeSet.min?_eq_none_iff.1 hmin
        exact Std.TreeSet.isEmpty_iff_forall_not_mem.1 hempty n hpending
    | some q =>
        have hleast := (min?_pending hmin).2 n hpending
        simp only [hmin, Option.all_some, decide_eq_true_eq] at hreached
        omega

theorem exists_min?_of_not_reached
    (hreached : s.isTargetReached = false) :
    ∃ q, s.pending.min? = some q ∧ q ≤ s.target := by
  unfold isTargetReached at hreached
  cases hmin : s.pending.min? with
  | none =>
      simp [hmin] at hreached
  | some q =>
      simp only [hmin, Option.all_some, decide_eq_false_iff_not, Nat.not_lt] at hreached
      exact ⟨q, rfl, hreached⟩

/-- Between two probes the numbers below some bound are known.  Each probe raises the
bound, so the search ends. -/
theorem finishes_of_known_below
    {below : Nat}
    (hs : s.Kept)
    (hqueries : s.queries = [])
    (hbelow : ∀ n, 2 ≤ n → n < below → n ∈ s.lengths)
    (hfalls : ∀ n, 2 ≤ n → n ≤ s.target → ∃ terms, Falls n terms) :
    ∃ s', ReflTransGen Leads (.isNextAboveTarget, s) (.calcComplete, s') ∧
      s'.target = s.target ∧ s'.Finished := by
  induction hleft : s.target + 1 - below using Nat.strongRecOn
    generalizing s below with
  | ind left ih =>
      subst hleft
      have hleads := leads_isNextAboveTarget (s := s)
      cases hreached : s.isTargetReached with
      | true =>
          rw [if_pos hreached] at hleads
          exact ⟨s, .single hleads, rfl, finished_of_isTargetReached hs hreached⟩
      | false =>
          rw [if_neg (by simp [hreached])] at hleads
          obtain ⟨q, hmin, hle⟩ := exists_min?_of_not_reached hreached
          obtain ⟨hpending, hleast⟩ := min?_pending hmin
          obtain ⟨⟨htwo, hrange⟩, hunknown⟩ := (hs.pending q).1 hpending
          obtain ⟨terms, hq⟩ := hfalls q htwo hle
          obtain ⟨t, ht, hanswered⟩ := answered_of_probe hs hqueries hmin hq
          have hnew : below ≤ q := by
            by_contra hlt
            exact hunknown (hbelow q htwo (by omega))
          have hraised : ∀ n, 2 ≤ n → n < q + 1 → n ∈ t.lengths := by
            intro n hn hlt
            rcases Nat.lt_succ_iff_lt_or_eq.1 hlt with hlt | rfl
            · apply hanswered.grows
              by_contra hmissing
              have := hleast n ((hs.pending n).2 ⟨⟨hn, by omega⟩, hmissing⟩)
              omega
            · exact hanswered.known
          have htarget := hanswered.target_eq
          obtain ⟨s', hs', htarget', hfinished⟩ :=
            ih (t.target + 1 - (q + 1)) (by omega) hanswered.kept hanswered.queries_eq
              hraised (by rwa [htarget]) rfl
          exact ⟨s', .head hleads (ht.trans hs'), htarget'.trans htarget, hfinished⟩

/-- A search from the beginning looks at 2 before it asks for the target. -/
theorem finishes
    (target : Nat)
    (hfalls : ∀ n, 2 ≤ n → n ≤ max target 2 → ∃ terms, Falls n terms) :
    ∃ s', ReflTransGen Leads (.initMachine, { target := target }) (.calcComplete, s') ∧
      s'.target = target ∧ s'.Finished := by
  have hkept := kept_begin target
  have hbegin : Leads (.initMachine, { target := target })
      (.addNextProbeToStack, begin { target := target }) :=
    ⟨by simp, rfl⟩
  have htwo : 2 ∈ (begin { target := target }).pending :=
    mem_pending_begin.2 ⟨Nat.le_refl 2, by omega⟩
  have hmin : (begin { target := target }).pending.min? = some 2 :=
    Std.TreeSet.min?_eq_some_iff_mem_and_forall.2
      ⟨htwo, fun n hn => Nat.isLE_compare.2 (mem_pending_begin.1 hn).1⟩
  obtain ⟨terms, hfalls_two⟩ := hfalls 2 (Nat.le_refl 2) (Nat.le_max_right _ _)
  obtain ⟨t, ht, hanswered⟩ := answered_of_probe hkept rfl hmin hfalls_two
  have htarget : t.target = target := hanswered.target_eq
  have hbelow : ∀ n, 2 ≤ n → n < 2 → n ∈ t.lengths := by omega
  obtain ⟨s', hs', htarget', hfinished⟩ :=
    finishes_of_known_below hanswered.kept hanswered.queries_eq hbelow
      (fun n hn hle => hfalls n hn (by omega))
  exact ⟨s', .head hbegin (ht.trans hs'), htarget'.trans htarget, hfinished⟩

/-! ### The longest chain -/

/-- Of entries, one of the greatest length, with the least start among these. -/
structure Best (entries : List (Nat × Nat)) (best : Nat × Nat) : Prop where
  mem : best ∈ entries
  greatest : ∀ e ∈ entries, e.2 < best.2 ∨ e.2 = best.2 ∧ best.1 ≤ e.1

/-- What looking through entries has found. -/
def Found (entries : List (Nat × Nat)) : Option (Nat × Nat) → Prop
  | none => entries = []
  | some best => Best entries best

/-- One entry more, with a start above all others. -/
theorem found_concat
    {entries : List (Nat × Nat)}
    {best : Option (Nat × Nat)}
    (h : Found entries best)
    {e : Nat × Nat}
    (habove : ∀ x ∈ entries, x.1 < e.1) :
    Found (entries ++ [e]) (better best e) := by
  cases best with
  | none =>
      obtain rfl : entries = [] := h
      exact ⟨by simp, by simp⟩
  | some best =>
      obtain ⟨hmem, hgreatest⟩ := h
      simp only [better]
      split_ifs with hle
      · refine ⟨List.mem_append_left _ hmem, ?_⟩
        intro x hx
        rcases List.mem_append.1 hx with hx | hx
        · exact hgreatest x hx
        · obtain rfl := List.mem_singleton.1 hx
          have := habove best hmem
          omega
      · refine ⟨by simp, ?_⟩
        intro x hx
        rcases List.mem_append.1 hx with hx | hx
        · have := hgreatest x hx
          omega
        · obtain rfl := List.mem_singleton.1 hx
          exact .inr ⟨rfl, Nat.le_refl _⟩

theorem found_foldl_better
    {entries : List (Nat × Nat)}
    (hsorted : entries.Pairwise fun a b => a.1 < b.1) :
    Found entries (entries.foldl better none) := by
  induction entries using List.reverseRecOn with
  | nil =>
      exact rfl
  | append_singleton entries e ih =>
      obtain ⟨hentries, -, habove⟩ := List.pairwise_append.1 hsorted
      rw [List.foldl_concat]
      exact found_concat (ih hentries) fun x hx => habove x hx e (by simp)

/-- The start up to a target with the longest chain, and the least one in a tie. -/
structure Longest (target start terms : Nat) : Prop where
  pos : 1 ≤ start
  le : start ≤ target
  counts : CountsTerms start terms
  longest : ∀ n length, 1 ≤ n → n ≤ target → Falls n length →
    length < terms ∨ length = terms ∧ start ≤ n

/-- What a search that has ended knows. -/
structure Solved (s : Search) (target : Nat) : Prop where
  known : ∀ n, 1 ≤ n → n ≤ target → ∃ terms, s.lengths[n]? = some terms
  right : ∀ n terms, s.lengths[n]? = some terms → CountsTerms n terms
  longest?_eq_none_iff : s.longest? = none ↔ target = 0
  longest_of_longest? : ∀ n terms, s.longest? = some (n, terms) → Longest target n terms

/-- The entries that `longest?` looks through. -/
def entries (s : Search) : List (Nat × Nat) :=
  s.lengths.toList.filter fun entry => entry.1 ≤ s.target

theorem mem_entries
    {n terms : Nat} :
    (n, terms) ∈ s.entries ↔ s.lengths[n]? = some terms ∧ n ≤ s.target := by
  simp [entries, Std.TreeMap.mem_toList_iff_getElem?_eq_some]

theorem found_longest?
    (s : Search) :
    Found s.entries s.longest? := by
  have hsorted : s.lengths.toList.Pairwise fun a b => a.1 < b.1 :=
    Std.TreeMap.ordered_keys_toList.imp Nat.compare_eq_lt.1
  exact found_foldl_better (hsorted.filter _)

namespace Finished

theorem exists_terms
    (h : s.Finished)
    {n : Nat}
    (hpos : 1 ≤ n)
    (hle : n ≤ s.target) :
    ∃ terms, s.lengths[n]? = some terms ∧ Falls n terms :=
  h.kept.exists_terms (h.known n hpos hle)

theorem longest?_eq_none_iff
    (h : s.Finished) :
    s.longest? = none ↔ s.target = 0 := by
  have hfound := found_longest? s
  constructor
  · intro hnone
    by_contra hpos
    obtain ⟨terms, hterms, -⟩ := h.exists_terms (Nat.le_refl 1) (by omega)
    have hmem : (1, terms) ∈ s.entries := mem_entries.2 ⟨hterms, by omega⟩
    have hempty : s.entries = [] := by simpa [hnone, Found] using hfound
    simp [hempty] at hmem
  · intro hzero
    cases hlongest : s.longest? with
    | none =>
        rfl
    | some best =>
        rw [hlongest] at hfound
        obtain ⟨hterms, hle⟩ := mem_entries.1 hfound.mem
        have hpos := (h.kept.falls _ _ hterms).start_pos
        omega

theorem longest_of_longest?
    (h : s.Finished)
    {n terms : Nat}
    (hlongest : s.longest? = some (n, terms)) :
    Longest s.target n terms := by
  have hfound := found_longest? s
  rw [hlongest] at hfound
  obtain ⟨hterms, hle⟩ := mem_entries.1 hfound.mem
  have hfalls := h.kept.falls n terms hterms
  refine ⟨hfalls.start_pos, hle, hfalls.countsTerms, ?_⟩
  intro m length hpos hm hlength
  obtain ⟨length', hentry, hlength'⟩ := h.exists_terms hpos hm
  obtain rfl := hlength.unique hlength'
  exact hfound.greatest (m, length) (mem_entries.2 ⟨hentry, hm⟩)

theorem solved
    (h : s.Finished) :
    s.Solved s.target where
  known _ hpos hle := (h.exists_terms hpos hle).imp fun _ hterms => hterms.1
  right _ _ hterms := (h.kept.falls _ _ hterms).countsTerms
  longest?_eq_none_iff := h.longest?_eq_none_iff
  longest_of_longest? _ _ hlongest := h.longest_of_longest? hlongest

end Finished

end Search

/-- If all orbits from 2 up to the target come to 1, the search runs to completion and
has then found every chain up to the target, and the longest of them. -/
theorem search_solves
    (target : Nat)
    (horbits : ∀ n, 2 ≤ n → n ≤ max target 2 → ∃ k, next^[k] n = 1) :
    ∃ m, blueprint.build = .ok m ∧
      ∃ enough i,
        (∀ bound, enough ≤ bound →
          m.runToCompletion bound (m.newInstance () { target := target }) = (i, .done)) ∧
        m.nameOf? i.current = some "CalcComplete" ∧
        i.data.Solved target := by
  have hfalls : ∀ n, 2 ≤ n → n ≤ max target 2 → ∃ terms, Falls n terms := by
    intro n hn hle
    obtain ⟨k, hk⟩ := horbits n hn hle
    exact exists_falls_of_iterate hk
  obtain ⟨s, hleads, rfl, hfinished⟩ := Search.finishes target hfalls
  obtain ⟨enough, i, hi, hrun⟩ := exists_completion_of_leads hleads
  refine ⟨machine, build_blueprint, enough, i, hrun, ?_, ?_⟩
  · rw [hi.current_eq, nameOf?_machine]
    rfl
  · rw [hi.data_eq]
    exact hfinished.solved

/-- The search up to 9, where the longest chain is that of 9. -/
theorem search_solves_nine :
    (∀ n, 2 ≤ n → n ≤ max 9 2 → ∃ k, next^[k] n = 1) ∧
    ∃ m, blueprint.build = .ok m ∧
      ∃ enough i,
        (∀ bound, enough ≤ bound →
          m.runToCompletion bound (m.newInstance () { target := 9 }) = (i, .done)) ∧
        m.nameOf? i.current = some "CalcComplete" ∧
        i.data.Solved 9 := by
  have hnine : ∀ n ∈ List.range' 2 8, ∃ k < 20, next^[k] n = 1 := by decide
  have horbits : ∀ n, 2 ≤ n → n ≤ max 9 2 → ∃ k, next^[k] n = 1 := by
    intro n hn hle
    have hmem : n ∈ List.range' 2 8 := List.mem_range'_1.2 ⟨hn, by omega⟩
    obtain ⟨k, -, hk⟩ := hnine n hmem
    exact ⟨k, hk⟩
  exact ⟨horbits, search_solves 9 horbits⟩

end Collatz
end Flowchart

import Flowchart.Text.Blank
import Flowchart.Text.Split
import Mathlib.Data.List.DropRight
import Mathlib.Data.List.Infix
import Mathlib.Tactic.SplitIfs

/-!
# What trimming and cutting leave

Trimming takes away blanks at both ends and nothing else, and what it leaves is bare: it
neither begins nor ends with a blank.  These two facts determine it.

A text is cut at its first arrow, so the part before it has none.  The pieces between
separators are those texts without a separator that give the text when they are joined
again.
-/

namespace Flowchart
namespace Text

/-! ### Trimming -/

/-- A text that consists of blanks. -/
def AllBlank (text : List Char) : Prop :=
  ∀ c ∈ text, isBlank c = true

/-- A text that neither begins nor ends with a blank. -/
structure Bare (text : List Char) : Prop where
  head : ∀ c ∈ text.head?, ¬ isBlank c = true
  last : ∀ c ∈ text.getLast?, ¬ isBlank c = true

theorem bare_nil : Bare [] := by
  constructor <;> simp

theorem not_mem_of_allBlank
    {blanks : List Char}
    (h : AllBlank blanks)
    {c : Char}
    (hc : isBlank c = false) :
    c ∉ blanks := by
  intro hmem
  rw [h c hmem] at hc
  cases hc

theorem trimEnd_eq_rdropWhile
    (text : List Char) :
    trimEnd text = text.rdropWhile isBlank := by
  rfl

theorem trimStart_eq_self
    {text : List Char}
    (h : ∀ c ∈ text.head?, ¬ isBlank c = true) :
    trimStart text = text := by
  cases text with
  | nil => rfl
  | cons c rest => exact List.dropWhile_cons_of_neg (h c rfl)

theorem trim_of_bare
    {text : List Char}
    (h : Bare text) :
    trim text = text := by
  rw [trim, trimStart_eq_self h.head, trimEnd_eq_rdropWhile, List.rdropWhile_eq_self_iff]
  intro hne
  exact h.last _ (by simp [List.getLast?_eq_getLast_of_ne_nil hne])

/-- Blanks in front do not matter. -/
theorem trim_append_left
    {blanks : List Char}
    (h : AllBlank blanks)
    (text : List Char) :
    trim (blanks ++ text) = trim text := by
  rw [trim, trimStart, List.dropWhile_append_of_pos h]
  rfl

theorem trimEnd_append
    {blanks : List Char}
    (h : AllBlank blanks)
    (text : List Char) :
    trimEnd (text ++ blanks) = trimEnd text := by
  have hreverse : ∀ c ∈ blanks.reverse, isBlank c = true := by
    intro c hc
    exact h c (List.mem_reverse.1 hc)
  rw [trimEnd, List.reverse_append, List.dropWhile_append_of_pos hreverse]
  rfl

/-- Blanks behind do not matter. -/
theorem trim_append_right
    {blanks : List Char}
    (h : AllBlank blanks)
    (text : List Char) :
    trim (text ++ blanks) = trim text := by
  unfold trim trimStart
  rw [List.dropWhile_append]
  split_ifs with hempty
  · -- the whole text is blank
    rw [List.isEmpty_iff] at hempty
    rw [hempty, List.dropWhile_eq_nil_iff.2 h]
  · exact trimEnd_append h _

theorem trim_between
    {before after : List Char}
    (hbefore : AllBlank before)
    (hafter : AllBlank after)
    (text : List Char) :
    trim (before ++ text ++ after) = trim text := by
  rw [trim_append_right hafter, trim_append_left hbefore]

/-- Trimming takes away blanks only. -/
theorem exists_eq_append_trim
    (text : List Char) :
    ∃ before after, AllBlank before ∧ AllBlank after ∧
      text = before ++ trim text ++ after := by
  refine ⟨text.takeWhile isBlank, (trimStart text).rtakeWhile isBlank, ?_, ?_, ?_⟩
  · intro c hc
    exact List.mem_takeWhile_imp hc
  · intro c hc
    exact List.mem_rtakeWhile_imp hc
  · rw [trim, trimEnd_eq_rdropWhile, List.append_assoc, List.rdropWhile_append_rtakeWhile,
      trimStart, List.takeWhile_append_dropWhile]

theorem bare_trim
    (text : List Char) :
    Bare (trim text) where
  head := by
    intro c hc
    -- the first character of what is left is the first that is no blank
    obtain ⟨rest, hrest⟩ : trim text <+: trimStart text := List.rdropWhile_prefix _ _
    have hhead : (trimStart text).head? = some c := by
      rw [← hrest, List.head?_append, hc]
      rfl
    have hblank := List.head?_dropWhile_not isBlank text
    rw [← trimStart, hhead] at hblank
    simpa using hblank
  last := by
    intro c hc
    obtain ⟨hne, rfl⟩ := List.mem_getLast?_eq_getLast hc
    exact List.rdropWhile_last_not _ _ hne

/-- What trimming leaves is the bare text between blanks. -/
theorem trim_eq_iff
    (text middle : List Char) :
    trim text = middle ↔
      Bare middle ∧
      ∃ before after, AllBlank before ∧ AllBlank after ∧
        text = before ++ middle ++ after := by
  constructor
  · rintro rfl
    exact ⟨bare_trim text, exists_eq_append_trim text⟩
  · rintro ⟨hbare, before, after, hbefore, hafter, rfl⟩
    rw [trim_between hbefore hafter, trim_of_bare hbare]

theorem trim_eq_nil_iff
    (text : List Char) :
    trim text = [] ↔ AllBlank text := by
  constructor
  · intro hempty
    obtain ⟨before, after, hbefore, hafter, htext⟩ := exists_eq_append_trim text
    rw [hempty, List.append_nil] at htext
    intro c hc
    rw [htext, List.mem_append] at hc
    exact hc.elim (hbefore c) (hafter c)
  · intro hblank
    rw [← List.append_nil text, trim_append_left hblank, trim_of_bare bare_nil]

/-! ### Cutting at an arrow -/

/-- An arrow occurs in the text. -/
def HasArrow (text : List Char) : Prop :=
  ['-', '>'] <:+: text

instance (text : List Char) : Decidable (HasArrow text) :=
  inferInstanceAs (Decidable (_ <:+: _))

/-- An occurrence cannot begin in a text that lacks its first character. -/
theorem infix_append_iff_of_not_mem
    {α : Type}
    {a : α}
    {pattern before : List α}
    (h : a ∉ before)
    (text : List α) :
    a :: pattern <:+: before ++ text ↔ a :: pattern <:+: text := by
  induction before with
  | nil =>
      rfl
  | cons c rest ih =>
      rw [List.mem_cons, not_or] at h
      obtain ⟨hne, hrest⟩ := h
      rw [List.cons_append, List.infix_cons_iff, ih hrest]
      refine ⟨fun h => h.resolve_left ?_, .inr⟩
      rintro ⟨after, hafter⟩
      exact hne (List.cons.inj hafter).1

theorem hasArrow_append_left_iff
    {before : List Char}
    (h : '-' ∉ before)
    (text : List Char) :
    HasArrow (before ++ text) ↔ HasArrow text :=
  infix_append_iff_of_not_mem h text

theorem hasArrow_append_right_iff
    {after : List Char}
    (h : '>' ∉ after)
    (text : List Char) :
    HasArrow (text ++ after) ↔ HasArrow text := by
  have hreversed : ∀ text, HasArrow text ↔ ['>', '-'] <:+: text.reverse :=
    fun _ => List.reverse_infix.symm
  rw [hreversed, hreversed text, List.reverse_append]
  exact infix_append_iff_of_not_mem (by simpa using h) _

theorem hasArrow_between_iff
    {before after : List Char}
    (hbefore : AllBlank before)
    (hafter : AllBlank after)
    (text : List Char) :
    HasArrow (before ++ text ++ after) ↔ HasArrow text := by
  rw [hasArrow_append_right_iff (not_mem_of_allBlank hafter (by decide)),
    hasArrow_append_left_iff (not_mem_of_allBlank hbefore (by decide))]

theorem hasArrow_trim_iff
    (text : List Char) :
    HasArrow (trim text) ↔ HasArrow text := by
  obtain ⟨before, after, hbefore, hafter, htext⟩ := exists_eq_append_trim text
  conv_rhs => rw [htext]
  rw [hasArrow_between_iff hbefore hafter]

/-- A text is cut where it has an arrow. -/
theorem cutArrow_eq_none_iff
    (text : List Char) :
    cutArrow text = none ↔ ¬ HasArrow text := by
  unfold HasArrow
  induction text using cutArrow.induct with
  | case1 rest =>
      simp only [cutArrow, reduceCtorEq, false_iff, not_not]
      exact ⟨[], rest, rfl⟩
  | case2 c rest hne ih =>
      rw [cutArrow.eq_2 _ _ hne, Option.map_eq_none_iff, ih, List.infix_cons_iff,
        not_or]
      refine ⟨fun h => ⟨?_, h⟩, fun h => h.2⟩
      rintro ⟨after, hafter⟩
      obtain ⟨rfl, rfl⟩ := List.cons.inj hafter
      exact hne _ rfl rfl
  | case3 =>
      simp [cutArrow]

/-- A text is cut at its first arrow. -/
theorem cutArrow_eq_some_iff
    (text before after : List Char) :
    cutArrow text = some (before, after) ↔
      text = before ++ '-' :: '>' :: after ∧ ¬ HasArrow before := by
  rw [← cutArrow_eq_none_iff]
  induction text using cutArrow.induct generalizing before with
  | case1 rest =>
      rw [cutArrow]
      constructor
      · intro h
        obtain ⟨rfl, rfl⟩ := Prod.mk.inj (Option.some.inj h)
        exact ⟨rfl, rfl⟩
      · rintro ⟨heq, hnone⟩
        match before, heq, hnone with
        | [], heq, _ =>
            simp only [List.nil_append, List.cons.injEq, true_and] at heq
            rw [heq]
        | [_], heq, _ =>
            simp at heq
        | first :: second :: more, heq, hnone =>
            simp only [List.cons_append, List.cons.injEq] at heq
            obtain ⟨rfl, rfl, -⟩ := heq
            simp [cutArrow] at hnone
  | case2 c rest hne ih =>
      rw [cutArrow.eq_2 _ _ hne, Option.map_eq_some_iff]
      constructor
      · rintro ⟨⟨before, after⟩, hcut, heq⟩
        obtain ⟨rfl, rfl⟩ := Prod.mk.inj heq
        obtain ⟨rfl, hnone⟩ := (ih before).1 hcut
        refine ⟨rfl, ?_⟩
        rw [cutArrow.eq_2, hnone]
        · rfl
        · rintro more rfl rfl
          exact hne _ rfl rfl
      · rintro ⟨heq, hnone⟩
        cases before with
        | nil =>
            obtain ⟨rfl, rfl⟩ := List.cons.inj heq
            exact absurd rfl (hne _ rfl)
        | cons first more =>
            obtain ⟨rfl, rfl⟩ := List.cons.inj heq
            refine ⟨(more, after), (ih more).2 ⟨rfl, ?_⟩, rfl⟩
            rw [cutArrow_eq_none_iff] at hnone ⊢
            exact fun h => hnone (h.trans (List.suffix_cons _ _).isInfix)
  | case3 =>
      simp [cutArrow]

/-! ### Cutting at separators -/

theorem pieces_eq_splitOn
    (separator : Char)
    (text : List Char) :
    pieces separator text = text.splitOn separator := by
  induction text with
  | nil =>
      simp [pieces]
  | cons c rest ih =>
      rw [pieces, ih, List.splitOn_cons_eq_if_modifyHead]
      cases hrest : rest.splitOn separator with
      | nil => exact absurd hrest (List.splitOn_ne_nil _ _)
      | cons piece more => by_cases hc : c = separator <;> simp [hc]

theorem not_mem_of_mem_pieces
    {separator : Char}
    {text piece : List Char}
    (hpiece : piece ∈ pieces separator text) :
    separator ∉ piece := by
  induction text generalizing piece with
  | nil =>
      obtain rfl : piece = [] := by simpa [pieces] using hpiece
      simp
  | cons c rest ih =>
      rw [pieces] at hpiece
      cases hrest : pieces separator rest with
      | nil =>
          rw [pieces_eq_splitOn] at hrest
          exact absurd hrest (List.splitOn_ne_nil _ _)
      | cons first more =>
          rw [hrest] at hpiece ih
          by_cases hc : c = separator
          · simp only [hc, if_true, List.mem_cons] at hpiece
            rcases hpiece with rfl | hpiece
            · simp
            · exact ih (List.mem_cons.2 hpiece)
          · simp only [hc, if_false, List.mem_cons] at hpiece
            rcases hpiece with rfl | hpiece
            · have hfirst := ih List.mem_cons_self
              simpa [hfirst] using Ne.symm hc
            · exact ih (List.mem_cons_of_mem _ hpiece)

/-- There is one piece more than there are separators. -/
theorem length_pieces
    (separator : Char)
    (text : List Char) :
    (pieces separator text).length = text.count separator + 1 := by
  induction text with
  | nil =>
      rfl
  | cons c rest ih =>
      rw [pieces, List.count_cons]
      cases hrest : pieces separator rest with
      | nil =>
          rw [hrest] at ih
          cases ih
      | cons first more =>
          rw [hrest, List.length_cons] at ih
          by_cases hc : c = separator <;> simp [hc] <;> omega

/-- The pieces are the texts without a separator that join to the text. -/
theorem pieces_eq_iff
    (separator : Char)
    (text : List Char)
    (cut : List (List Char)) :
    pieces separator text = cut ↔
      cut ≠ [] ∧ (∀ piece ∈ cut, separator ∉ piece) ∧
        [separator].intercalate cut = text := by
  rw [pieces_eq_splitOn]
  constructor
  · rintro rfl
    refine ⟨List.splitOn_ne_nil _ _, ?_, List.intercalate_splitOn separator⟩
    rw [← pieces_eq_splitOn]
    exact fun piece => not_mem_of_mem_pieces
  · rintro ⟨hne, hnone, rfl⟩
    exact List.splitOn_intercalate separator hnone hne

theorem pieces_of_not_mem
    {separator : Char}
    {text : List Char}
    (h : separator ∉ text) :
    pieces separator text = [text] := by
  rw [pieces_eq_iff]
  simp [h]

theorem pieces_append
    {separator : Char}
    {first second : List Char}
    (hfirst : separator ∉ first)
    (hsecond : separator ∉ second) :
    pieces separator (first ++ separator :: second) = [first, second] := by
  rw [pieces_eq_iff]
  simp [hfirst, hsecond]

/-- A text has no separator, or one, or more. -/
theorem separators_cases
    (separator : Char)
    (text : List Char) :
    separator ∉ text ∨
    (∃ first second, separator ∉ first ∧ separator ∉ second ∧
      text = first ++ separator :: second) ∨
    2 ≤ text.count separator := by
  by_cases hmem : separator ∈ text
  · obtain ⟨first, second, rfl, hfirst⟩ := List.eq_append_cons_of_mem hmem
    by_cases hsecond : separator ∈ second
    · have := List.count_pos_iff.2 hsecond
      right; right
      rw [List.count_append, List.count_cons_self]
      omega
    · exact .inr (.inl ⟨first, second, hfirst, hsecond, rfl⟩)
  · exact .inl hmem

end Text
end Flowchart

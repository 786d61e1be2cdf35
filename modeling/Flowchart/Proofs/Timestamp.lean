import Flowchart.Time.Reader
import Mathlib.Algebra.Group.Nat.Defs
import Mathlib.Tactic.SplitIfs

/-!
# Timestamps that are written are read back

A timestamp of a year with four digits is written with numbers of fixed width.  Each
reader takes from the front of the text what the writer put there and leaves the rest, so
the readers in a row undo the writer.

The fraction has 3, 6 or 9 digits.  It loses nothing, since a shorter one is written only
if the digits left out are zeros.
-/

namespace Flowchart
namespace Timestamp

/-! ### Rows of digits -/

theorem digitsValue_eq_ofDigitChars
    (row : List Char) :
    digitsValue row = Nat.ofDigitChars 10 row 0 := by
  simp only [digitsValue, Nat.ofDigitChars_eq_foldl, Nat.mul_comm]

theorem digitsValue_padded
    (width n : Nat) :
    digitsValue (padded width n) = n := by
  rw [digitsValue_eq_ofDigitChars, padded, List.leftpad, Nat.ofDigitChars_append]
  simp

theorem length_padded
    {width n : Nat}
    (hpos : 0 < width)
    (hlt : n < 10 ^ width) :
    (padded width n).length = width := by
  rw [padded, List.length_leftpad, Nat.max_eq_left]
  exact (Nat.length_toDigits_le_iff (by decide) hpos).2 hlt

/-- No digit is a blank. -/
theorem not_isBlank_of_isDigit
    {c : Char}
    (hc : c.isDigit = true) :
    ¬ Text.isBlank c = true := by
  intro hblank
  have hdigit : 48 ≤ c.toNat ∧ c.toNat ≤ 57 := by
    simpa [Char.isDigit, UInt32.le_iff_toNat_le] using hc
  have hapart : ∀ r ∈ Text.blankRanges, r.2 < 48 ∨ 57 < r.1 := by
    decide
  obtain ⟨r, hr, hc⟩ := List.any_eq_true.1 hblank
  simp only [Bool.and_eq_true, decide_eq_true_eq] at hc
  have := hapart r hr
  omega

/-- What is written for a number: digits, and at least one. -/
theorem padded_eq_cons
    (width n : Nat) :
    ∃ c row, padded width n = c :: row ∧ ∀ d ∈ c :: row, d.isDigit = true := by
  have hdigits : ∀ d ∈ padded width n, d.isDigit = true := by
    intro d hd
    rw [padded, List.leftpad, List.mem_append] at hd
    rcases hd with hzero | hdigit
    · rw [List.eq_of_mem_replicate hzero]
      rfl
    · exact Nat.isDigit_of_mem_toDigits (by decide) (by decide) hdigit
  cases hrow : padded width n with
  | nil =>
      simp [padded, List.leftpad] at hrow
  | cons c row =>
      exact ⟨c, row, rfl, by rwa [hrow] at hdigits⟩

/-- No blank stands before a number that is written. -/
theorem trimStart_padded
    (width n : Nat)
    (rest : List Char) :
    Text.trimStart (padded width n ++ rest) = padded width n ++ rest := by
  obtain ⟨c, row, hrow, hdigits⟩ := padded_eq_cons width n
  rw [hrow, List.cons_append]
  exact List.dropWhile_cons_of_neg (not_isBlank_of_isDigit (hdigits c (by simp)))

/-! ### The readers one by one -/

/-- A number is read as far as it goes, if its width is the greatest that is read or
something else than a digit follows. -/
theorem readDigits_padded
    {most width n : Nat}
    (hlen : (padded width n).length ≤ most)
    {rest : List Char}
    (hstop : (padded width n).length = most ∨ ∀ c ∈ rest.head?, ¬ c.isDigit = true) :
    readDigits most (padded width n ++ rest) = some (padded width n, rest) := by
  obtain ⟨c, row, hrow, hdigits⟩ := padded_eq_cons width n
  rw [hrow] at hlen hstop ⊢
  have hnone : (rest.take (most - (c :: row).length)).takeWhile Char.isDigit = [] := by
    rcases hstop with hmost | hother
    · simp [hmost]
    · cases rest with
      | nil => simp
      | cons d rest =>
          cases most - (c :: row).length with
          | zero => rfl
          | succ k => exact List.takeWhile_cons_of_neg (hother d rfl)
  have htake : ((c :: row ++ rest).take most).takeWhile Char.isDigit = c :: row := by
    rw [List.take_append, List.take_of_length_le hlen,
      List.takeWhile_append_of_pos hdigits, hnone, List.append_nil]
  unfold readDigits
  simp only [htake, List.drop_left]
  rfl

theorem readPair_padded
    {n : Nat}
    (hlt : n < 100)
    (rest : List Char) :
    readPair (padded 2 n ++ rest) = some (n, rest) := by
  have hlen : (padded 2 n).length = 2 := length_padded (by decide) hlt
  rw [readPair, trimStart_padded, readDigits_padded (Nat.le_of_eq hlen) (.inl hlen)]
  simp [digitsValue_padded]

theorem readMark_cons
    {mark : Char}
    (hmark : ¬ Text.isBlank mark = true)
    (rest : List Char) :
    readMark mark (mark :: rest) = some rest := by
  have htrim : Text.trimStart (mark :: rest) = mark :: rest :=
    List.dropWhile_cons_of_neg hmark
  simp [readMark, htrim]

theorem readSeparator_cons
    (rest : List Char) :
    readSeparator ('T' :: rest) = some rest :=
  rfl

theorem readYear_writeYear
    {year : Int}
    (hlow : 0 ≤ year)
    (hhigh : year ≤ 9999)
    (rest : List Char) :
    readYear (writeYear year ++ rest) = some (year, rest) := by
  have hlen : (padded 4 year.toNat).length = 4 := length_padded (by decide) (by omega)
  have hread : readDigits 4 (padded 4 year.toNat ++ rest) =
      some (padded 4 year.toNat, rest) :=
    readDigits_padded (Nat.le_of_eq hlen) (.inl hlen)
  have htrim := trimStart_padded 4 year.toNat rest
  have hvalue := digitsValue_padded 4 year.toNat
  rw [writeYear, if_pos ⟨hlow, hhigh⟩, readYear, htrim]
  obtain ⟨c, row, hrow, hdigits⟩ := padded_eq_cons 4 year.toNat
  rw [hrow] at hread hvalue ⊢
  rw [List.cons_append] at hread ⊢
  -- the first character is a digit, so it is no sign
  split
  · next hminus =>
      cases hminus
      simp at hdigits
  · next hplus =>
      cases hplus
      simp at hdigits
  · rw [hread]
    simp only [Option.map_some, hvalue, Int.toNat_of_nonneg hlow]

/-- A fraction in few digits is that in nine, if zeros are left out. -/
theorem readFraction_padded
    {width n nanosecond : Nat}
    (hpos : 0 < width)
    (hwidth : width ≤ 9)
    (hlt : n < 10 ^ width)
    (hvalue : n * Nat.pow 10 (9 - width) = nanosecond)
    (rest : List Char) :
    readFraction ('.' :: (padded width n ++ 'Z' :: rest)) =
      some (nanosecond, 'Z' :: rest) := by
  have hlen := length_padded hpos hlt
  have hstop : ∀ c ∈ ('Z' :: rest).head?, ¬ c.isDigit = true := by
    rintro c ⟨⟩
    decide
  rw [readFraction, readDigits_padded (by omega) (.inr hstop)]
  simp only [Option.map_some, digitsValue_padded, hlen, hvalue]
  rfl

/-- A fraction is read back to the nanosecond. -/
theorem readFraction_writeFraction
    {nanosecond : Nat}
    (hlt : nanosecond < 1000000000)
    (rest : List Char) :
    readFraction (writeFraction nanosecond ++ 'Z' :: rest) =
      some (nanosecond, 'Z' :: rest) := by
  unfold writeFraction
  split_ifs with hzero hmilli hmicro
  · rw [hzero]
    rfl
  · have hmillis : nanosecond / 1000000 < 10 ^ 3 := by omega
    exact readFraction_padded (by decide) (by decide) hmillis
      (Nat.div_mul_cancel (Nat.dvd_of_mod_eq_zero hmilli)) rest
  · have hmicros : nanosecond / 1000 < 10 ^ 6 := by omega
    exact readFraction_padded (by decide) (by decide) hmicros
      (Nat.div_mul_cancel (Nat.dvd_of_mod_eq_zero hmicro)) rest
  · exact readFraction_padded (by decide) (by decide) (by omega) (Nat.mul_one _) rest

/-! ### The whole -/

/-- The numbers of a timestamp are those of a timestamp. -/
theorem of?_self
    (t : Timestamp) :
    of? t.date.year t.date.month t.date.day t.hour t.minute t.second t.nanosecond =
      some t := by
  have hdate : Date.of? t.date.year t.date.month t.date.day = some t.date := by
    unfold Date.of?
    rw [dif_pos ⟨⟨t.date.one_le_month, t.date.month_le⟩, t.date.one_le_day, t.date.day_le⟩]
  have hrange : (t.hour < 24 ∧ t.minute < 60) ∧ t.second ≤ 60 ∧
      t.nanosecond < 1000000000 :=
    ⟨⟨t.hour_lt, t.minute_lt⟩, t.second_le, t.nanosecond_lt⟩
  rw [of?, hdate, Option.bind_eq_bind, Option.bind_some, dif_pos hrange]

/-- A time in the zone of UTC is the time in UTC. -/
theorem fromZone_zero
    (t : Timestamp) :
    t.fromZone 0 = t := by
  have hhour := t.hour_lt
  have hminute := t.minute_lt
  obtain ⟨date, hour, minute, second, nanosecond, _, _, _, _⟩ := t
  simp only [fromZone, mk.injEq]
  refine ⟨?_, ?_, ?_, trivial, trivial⟩
  · rw [if_neg (by omega), if_pos (by omega)]
  · omega
  · omega

/-- A timestamp of the years 0 to 9999 is read back from what is written for it. -/
theorem read?_write
    (t : Timestamp)
    (hlow : 0 ≤ t.date.year)
    (hhigh : t.date.year ≤ 9999) :
    read? t.write = some t := by
  have hmonth := t.date.month_le
  have hday : t.date.day ≤ 31 := by
    have := t.date.day_le
    unfold monthLength at this
    split_ifs at this <;> omega
  have hhour := t.hour_lt
  have hminute := t.minute_lt
  have hsecond := t.second_le
  have hdash : ¬ Text.isBlank '-' = true := by decide
  have hcolon : ¬ Text.isBlank ':' = true := by decide
  have hzone : readZone (Text.trimStart ['Z']) = some (0, []) := by decide
  have hyear : isYearInRange t.date.year = true := by
    simp only [isYearInRange, Bool.and_eq_true, decide_eq_true_eq]
    omega
  unfold read? write
  rw [String.toList_ofList]
  simp only [List.append_assoc, List.cons_append, List.nil_append]
  refine Option.bind_eq_some_iff.2 ⟨_, readYear_writeYear hlow hhigh _, ?_⟩
  refine Option.bind_eq_some_iff.2 ⟨_, readMark_cons hdash _, ?_⟩
  refine Option.bind_eq_some_iff.2 ⟨_, readPair_padded (by omega) _, ?_⟩
  refine Option.bind_eq_some_iff.2 ⟨_, readMark_cons hdash _, ?_⟩
  refine Option.bind_eq_some_iff.2 ⟨_, readPair_padded (by omega) _, ?_⟩
  refine Option.bind_eq_some_iff.2 ⟨_, readSeparator_cons _, ?_⟩
  refine Option.bind_eq_some_iff.2 ⟨_, readPair_padded (by omega) _, ?_⟩
  refine Option.bind_eq_some_iff.2 ⟨_, readMark_cons hcolon _, ?_⟩
  refine Option.bind_eq_some_iff.2 ⟨_, readPair_padded (by omega) _, ?_⟩
  refine Option.bind_eq_some_iff.2 ⟨_, readMark_cons hcolon _, ?_⟩
  refine Option.bind_eq_some_iff.2 ⟨_, readPair_padded (by omega) _, ?_⟩
  refine Option.bind_eq_some_iff.2 ⟨_, readFraction_writeFraction t.nanosecond_lt [], ?_⟩
  refine Option.bind_eq_some_iff.2 ⟨_, hzone, ?_⟩
  refine Option.bind_eq_some_iff.2 ⟨_, of?_self t, ?_⟩
  simp only [fromZone_zero]
  exact if_pos ⟨rfl, by decide, hyear, hyear⟩

end Timestamp
end Flowchart

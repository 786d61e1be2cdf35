import Flowchart.Text.Numeral
import Mathlib.Data.List.Induction

/-!
# Which texts are numerals

A number is read from its decimal digits, with zeros or a plus sign in front, and from no
other text.  So the texts that are accepted are known exactly, up to the greatest number
that may be read.

The value never gets smaller while digits are read.  Hence a number that is too large at
some digit is too large at the end.
-/

namespace Flowchart
namespace Text

/-- The decimal digits of a number behind zeros. -/
def numeral (zeros n : Nat) : List Char :=
  List.replicate zeros '0' ++ Nat.toDigits 10 n

/-! ### Rows of digits -/

theorem numeral_ne_nil
    (zeros n : Nat) :
    numeral zeros n ≠ [] := by
  simp [numeral, Nat.toDigits_ne_nil]

theorem isDigit_of_mem_numeral
    {zeros n : Nat}
    {c : Char}
    (hc : c ∈ numeral zeros n) :
    c.isDigit = true := by
  rcases List.mem_append.1 hc with hzero | hdigit
  · rw [List.eq_of_mem_replicate hzero]
    rfl
  · exact Nat.isDigit_of_mem_toDigits (by decide) (by decide) hdigit

theorem numeral_ne_cons
    {c : Char}
    (hc : ¬ c.isDigit = true)
    (zeros n : Nat)
    (rest : List Char) :
    numeral zeros n ≠ c :: rest := by
  intro h
  exact hc (isDigit_of_mem_numeral (h ▸ List.mem_cons_self))

theorem ofDigitChars_numeral
    (zeros n : Nat) :
    Nat.ofDigitChars 10 (numeral zeros n) 0 = n := by
  rw [numeral, Nat.ofDigitChars_append, Nat.ofDigitChars_replicate_zero, Nat.mul_zero,
    Nat.ofDigitChars_ten_toDigits]

/-- A numeral stands for one number. -/
theorem eq_of_numeral_eq
    {zeros zeros' n n' : Nat}
    (h : numeral zeros n = numeral zeros' n') :
    n = n' := by
  rw [← ofDigitChars_numeral zeros n, h, ofDigitChars_numeral]

theorem toDigits_of_isDigit
    {c : Char}
    (hc : c.isDigit = true) :
    c.toNat - '0'.toNat < 10 ∧ Nat.toDigits 10 (c.toNat - '0'.toNat) = [c] := by
  have hzero : '0'.toNat = 48 := rfl
  have hrange : 48 ≤ c.toNat ∧ c.toNat ≤ 57 := by
    simpa [Char.isDigit, UInt32.le_iff_toNat_le] using hc
  have hlt : c.toNat - '0'.toNat < 10 := by
    omega
  have hchar : (c.toNat - '0'.toNat).digitChar = c := by
    apply Char.toNat_inj.1
    rw [Nat.toNat_digitChar_of_lt_ten hlt]
    omega
  exact ⟨hlt, by rw [Nat.toDigits_of_lt_base hlt, hchar]⟩

/-- A digit behind a numeral gives a numeral again. -/
theorem exists_numeral_append
    (zeros n : Nat)
    {c : Char}
    (hc : c.isDigit = true) :
    ∃ zeros', numeral zeros n ++ [c] =
      numeral zeros' (10 * n + (c.toNat - '0'.toNat)) := by
  obtain ⟨hlt, hdigit⟩ := toDigits_of_isDigit hc
  by_cases hzero : n = 0
  · -- the digit 0 of the number joins the zeros in front
    subst hzero
    refine ⟨zeros + 1, ?_⟩
    rw [numeral, numeral, Nat.mul_zero, Nat.zero_add, hdigit, List.replicate_succ']
    rfl
  · refine ⟨zeros, ?_⟩
    rw [numeral, numeral, List.append_assoc, ← hdigit,
      Nat.toDigits_append_toDigits (by decide) (by omega) hlt]

/-- Every row of digits is a numeral of its value. -/
theorem exists_eq_numeral
    {row : List Char}
    (hne : row ≠ [])
    (hdigits : ∀ c ∈ row, c.isDigit = true) :
    ∃ zeros, row = numeral zeros (Nat.ofDigitChars 10 row 0) := by
  -- the value grows at the end of the row
  induction row using List.reverseRecOn with
  | nil => exact absurd rfl hne
  | append_singleton row c ih =>
      have hc := hdigits c (by simp)
      rw [Nat.ofDigitChars_append, Nat.ofDigitChars_cons, Nat.ofDigitChars_nil]
      by_cases hrow : row = []
      · subst hrow
        refine ⟨0, ?_⟩
        rw [Nat.ofDigitChars_nil, Nat.mul_zero, Nat.zero_add, numeral,
          (toDigits_of_isDigit hc).2]
        rfl
      · obtain ⟨zeros, hzeros⟩ := ih hrow fun d hd => hdigits d (by simp [hd])
        obtain ⟨zeros', hzeros'⟩ :=
          exists_numeral_append zeros (Nat.ofDigitChars 10 row 0) hc
        exact ⟨zeros', by rw [← hzeros', ← hzeros]⟩

/-! ### Reading -/

theorem le_ofDigitChars
    (row : List Char)
    (value : Nat) :
    value ≤ Nat.ofDigitChars 10 row value := by
  induction row generalizing value with
  | nil => exact Nat.le_refl _
  | cons c row ih =>
      rw [Nat.ofDigitChars_cons]
      exact Nat.le_trans (by omega) (ih _)

/-- A row is read to its end if it consists of digits and the value stays within the
bound. -/
theorem readDigits_eq_ok_iff
    {bound value : Nat}
    (hvalue : value ≤ bound)
    (text : List Char)
    (n : Nat) :
    readDigits bound value text = .ok n ↔
      (∀ c ∈ text, c.isDigit = true) ∧ Nat.ofDigitChars 10 text value = n ∧ n ≤ bound := by
  induction text generalizing value with
  | nil =>
      constructor
      · intro h
        obtain rfl := Except.ok.inj h
        exact ⟨by simp, rfl, hvalue⟩
      · rintro ⟨-, rfl, -⟩
        rfl
  | cons c text ih =>
      rw [readDigits, Nat.ofDigitChars_cons, digit?]
      by_cases hc : c.isDigit = true
      · simp only [if_pos hc]
        by_cases hle : value * 10 + (c.toNat - '0'.toNat) ≤ bound
        · rw [if_pos hle, ih hle, Nat.mul_comm value]
          simp [hc]
        · rw [if_neg hle]
          constructor
          · intro h
            cases h
          · rintro ⟨-, rfl, hbound⟩
            have := le_ofDigitChars text (10 * value + (c.toNat - '0'.toNat))
            omega
      · simp [hc]

theorem readDigits_eq_ok_iff_numeral
    {bound : Nat}
    {text : List Char}
    (hne : text ≠ [])
    (n : Nat) :
    readDigits bound 0 text = .ok n ↔ n ≤ bound ∧ ∃ zeros, text = numeral zeros n := by
  rw [readDigits_eq_ok_iff (Nat.zero_le _)]
  constructor
  · rintro ⟨hdigits, rfl, hbound⟩
    exact ⟨hbound, exists_eq_numeral hne hdigits⟩
  · rintro ⟨hbound, zeros, rfl⟩
    exact ⟨fun c hc => isDigit_of_mem_numeral hc, ofDigitChars_numeral zeros n, hbound⟩

/-- The texts that are read as a number are its numerals, also behind a plus sign. -/
theorem readNumeral_eq_ok_iff
    (bound n : Nat)
    (text : List Char) :
    readNumeral bound text = .ok n ↔
      n ≤ bound ∧ ∃ zeros, text = numeral zeros n ∨ text = '+' :: numeral zeros n := by
  unfold readNumeral
  split
  case h_1 =>
      simp [eq_comm (a := ([] : List Char)), numeral_ne_nil]
  case h_2 =>
      constructor
      · intro h
        cases h
      · rintro ⟨-, zeros, hnumeral | hplus⟩
        · exact absurd hnumeral.symm (numeral_ne_cons (by decide) zeros n [])
        · exact absurd (List.tail_eq_of_cons_eq hplus).symm (numeral_ne_nil zeros n)
  case h_3 rest hrest =>
      have hne : rest ≠ [] := by
        rintro rfl
        exact hrest rfl
      have hplain : ∀ zeros, '+' :: rest ≠ numeral zeros n :=
        fun zeros => (numeral_ne_cons (by decide) zeros n rest).symm
      rw [readDigits_eq_ok_iff_numeral hne]
      simp [hplain]
  case h_4 hne _ hplus =>
      have hsigned : ∀ zeros, text ≠ '+' :: numeral zeros n := by
        intro zeros h
        exact hplus _ h
      rw [readDigits_eq_ok_iff_numeral hne]
      simp [hsigned]

end Text
end Flowchart

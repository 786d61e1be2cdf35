import Flowchart.Proofs.Names
import Flowchart.Proofs.Numeral
import Flowchart.Proofs.Timestamp
import Flowchart.Shell.Command
import Flowchart.Text.Lowercase

/-!
# Which lines are commands

Without the blanks around it a command is one of two letters, large or small, the digits
of a number below `2 ^ 64`, or a plus sign and a payload.  No other line is accepted.

The blanks go before the plus sign is looked for, so a payload loses those at its end.  It
is read as it was written exactly if it has none there.
-/

namespace Flowchart

namespace Text

/-! ### Letters, large and small -/

theorem lowercase_ne_nil
    (c : Char) :
    lowercase c ≠ [] := by
  unfold lowercase
  split
  · simp
  · split <;> simp

/-- A small letter and its capital, 32 places before it.  The table leads to the small
letter from nowhere else. -/
structure LetterPair (small large : Char) : Prop where
  pos : 32 < small.toNat
  large_eq : large = Char.ofNat (small.toNat - 32)
  lowercase_small : lowercase small = [small]
  lowercase_large : lowercase large = [small]
  only : lowercaseTable.all (fun row =>
    !row.1.contains (small.toNat - row.2).toNat || row.2 == 32) = true

theorem letterPair_s : LetterPair 's' 'S' :=
  ⟨by decide, rfl, by decide +kernel, by decide +kernel, by decide +kernel⟩

theorem letterPair_q : LetterPair 'q' 'Q' :=
  ⟨by decide, rfl, by decide +kernel, by decide +kernel, by decide +kernel⟩

namespace LetterPair

variable {small large : Char}

theorem eq_or_eq_of_lowercase
    (h : LetterPair small large)
    {c : Char}
    (hc : lowercase c = [small]) :
    c = small ∨ c = large := by
  have hpos := h.pos
  unfold lowercase at hc
  split at hc
  · simp at hc
  split at hc
  · rename_i row hfind
    have hcontains : row.1.contains c.toNat = true := by
      simpa using List.find?_some hfind
    have hcode : (c.toNat + row.2).toNat = small.toNat := by
      have hchar := List.singleton_injective hc
      by_cases hvalid : (c.toNat + row.2).toNat.isValidChar
      · rw [Char.ofNat, dif_pos hvalid] at hchar
        rw [← hchar]
        rfl
      · -- no code point: the character would be U+0000
        rw [Char.ofNat, dif_neg hvalid] at hchar
        rw [← hchar] at hpos
        exact absurd hpos (by decide)
    have hback : (small.toNat - row.2).toNat = c.toNat := by
      omega
    have hrow := List.all_eq_true.1 h.only row (List.mem_of_find?_eq_some hfind)
    rw [hback, hcontains] at hrow
    have hshift : row.2 = 32 := by
      simpa using hrow
    have hcapital : c.toNat = small.toNat - 32 := by
      omega
    right
    rw [h.large_eq, ← hcapital, Char.ofNat_toNat]
  · exact .inl (List.singleton_injective hc)

/-- A text has the small form of one letter if and only if it is that letter, large or
small. -/
theorem flatMap_lowercase_iff
    (h : LetterPair small large)
    (text : List Char) :
    text.flatMap lowercase = [small] ↔ ∃ c, (c = small ∨ c = large) ∧ text = [c] := by
  constructor
  · intro htext
    cases text with
    | nil => simp at htext
    | cons c rest =>
        rw [List.flatMap_cons, List.append_eq_singleton_iff] at htext
        rcases htext with ⟨hnil, -⟩ | ⟨hc, hrest⟩
        · exact absurd hnil (lowercase_ne_nil c)
        · have hend : rest = [] := by
            rw [List.flatMap_eq_nil_iff] at hrest
            exact List.eq_nil_iff_forall_not_mem.2 fun d hd =>
              lowercase_ne_nil d (hrest d hd)
          exact ⟨c, h.eq_or_eq_of_lowercase hc, by rw [hend]⟩
  · rintro ⟨c, rfl | rfl, rfl⟩
    · simp [h.lowercase_small]
    · simp [h.lowercase_large]

end LetterPair

/-! ### Blanks at the end -/

theorem trimEnd_cons
    {c : Char}
    (hc : ¬ isBlank c = true)
    (text : List Char) :
    trimEnd (c :: text) = c :: trimEnd text := by
  have hlast : [c].dropWhile isBlank = [c] := List.dropWhile_cons_of_neg hc
  rw [trimEnd, trimEnd, List.reverse_cons, List.dropWhile_append]
  split_ifs with hempty
  · rw [hlast, List.isEmpty_iff.1 hempty]
    rfl
  · rw [List.reverse_append]
    rfl

theorem trimEnd_eq_self_iff
    (text : List Char) :
    trimEnd text = text ↔ ∀ c ∈ text.getLast?, ¬ isBlank c = true := by
  rw [trimEnd_eq_rdropWhile, List.rdropWhile_eq_self_iff]
  constructor
  · intro h c hc
    obtain ⟨hne, rfl⟩ := List.mem_getLast?_eq_getLast hc
    exact h hne
  · intro h hne
    exact h _ (by simp [List.getLast?_eq_getLast_of_ne_nil hne])

end Text

namespace Shell
namespace Command

/-- A text that stands for a command. -/
inductive Written : Command → List Char → Prop where
  | step {c : Char} (hc : c = 's' ∨ c = 'S') : Written .step [c]
  | quit {c : Char} (hc : c = 'q' ∨ c = 'Q') : Written .quit [c]
  | runToStep (zeros : Nat) {count : Nat} (hcount : count < UInt64.size) :
      Written (.runToStep count) (Text.numeral zeros count)
  | inject (payload : String) : Written (.inject payload) ('+' :: payload.toList)

/-- No blank stands at the end of the command. -/
def Ended : Command → Prop
  | .inject payload => ∀ c ∈ payload.toList.getLast?, ¬ Text.isBlank c = true
  | _ => True

/-! ### What is accepted -/

/-- The error of a line that is no command shows the line without the blanks around
it. -/
theorem parse_error
    {line : String}
    {e : ShellError}
    (h : parse line = .error e) :
    e = .invalid (trimmed line) := by
  unfold parse at h
  split at h
  case h_6 =>
      split at h
      · cases h
      · simpa [trimmed, eq_comm] using h
  all_goals cases h

theorem Written.of_parse
    {line : String}
    {command : Command}
    (h : parse line = .ok command) :
    Written command (Text.trim line.toList) := by
  unfold parse at h
  split at h
  case h_1 payload htext =>
      obtain rfl := Except.ok.inj h
      rw [htext]
      simpa using Written.inject (String.ofList payload)
  case h_2 htext | h_3 htext =>
      obtain rfl := Except.ok.inj h
      rw [htext]
      exact .step (by decide)
  case h_4 htext | h_5 htext =>
      obtain rfl := Except.ok.inj h
      rw [htext]
      exact .quit (by decide)
  case h_6 hplus _ _ _ _ =>
      split at h
      · rename_i count hread
        obtain rfl := Except.ok.inj h
        obtain ⟨hcount, zeros, htext | hsign⟩ := (Text.readNumeral_eq_ok_iff _ _ _).1 hread
        · rw [htext]
          exact .runToStep zeros (Nat.lt_of_le_pred (by decide) hcount)
        · exact (hplus _ hsign).elim
      · cases h

theorem Written.parse_eq
    {line : String}
    {command : Command}
    (h : Written command (Text.trim line.toList)) :
    parse line = .ok command := by
  unfold parse
  generalize Text.trim line.toList = text at h
  cases h with
  | step hc =>
      rcases hc with rfl | rfl <;> rfl
  | quit hc =>
      rcases hc with rfl | rfl <;> rfl
  | inject payload =>
      simp
  | @runToStep zeros count hcount =>
      have hread : Text.readNumeral Text.maxWord (Text.numeral zeros count) = .ok count :=
        (Text.readNumeral_eq_ok_iff _ _ _).2 ⟨Nat.le_pred_of_lt hcount, zeros, .inl rfl⟩
      -- no digit is a letter or a sign, so only the last case is left
      split
      case h_6 => rw [hread]
      all_goals
        rename_i htext
        exact absurd htext (Text.numeral_ne_cons (by decide) zeros count _)

theorem parse_eq_ok_iff
    (line : String)
    (command : Command) :
    parse line = .ok command ↔ Written command (Text.trim line.toList) :=
  ⟨.of_parse, Written.parse_eq⟩

theorem parse_eq_error_iff
    (line : String)
    (error : ShellError) :
    parse line = .error error ↔
      error = .invalid (trimmed line) ∧
      ∀ command, ¬ Written command (Text.trim line.toList) := by
  constructor
  · intro h
    refine ⟨parse_error h, ?_⟩
    intro command hwritten
    rw [hwritten.parse_eq] at h
    cases h
  · rintro ⟨rfl, hnone⟩
    cases h : parse line with
    | ok command => exact absurd (Written.of_parse h) (hnone command)
    | error error => rw [parse_error h]

/-! ### How a line is read -/

theorem written_step_iff
    (text : List Char) :
    Written .step text ↔ ∃ c, (c = 's' ∨ c = 'S') ∧ text = [c] := by
  constructor
  · intro h
    cases h with
    | step hc => exact ⟨_, hc, rfl⟩
  · rintro ⟨c, hc, rfl⟩
    exact .step hc

theorem written_quit_iff
    (text : List Char) :
    Written .quit text ↔ ∃ c, (c = 'q' ∨ c = 'Q') ∧ text = [c] := by
  constructor
  · intro h
    cases h with
    | quit hc => exact ⟨_, hc, rfl⟩
  · rintro ⟨c, hc, rfl⟩
    exact .quit hc

theorem Written.eq_of_inject
    {payload : String}
    {text : List Char}
    (h : Written (.inject payload) text) :
    text = '+' :: payload.toList := by
  cases h
  rfl

theorem lt_of_written_numeral
    {command : Command}
    {zeros n : Nat}
    (h : Written command (Text.numeral zeros n)) :
    n < UInt64.size := by
  generalize htext : Text.numeral zeros n = text at h
  cases h with
  | step hc =>
      rcases hc with rfl | rfl <;>
        exact absurd htext (Text.numeral_ne_cons (by decide) zeros n [])
  | quit hc =>
      rcases hc with rfl | rfl <;>
        exact absurd htext (Text.numeral_ne_cons (by decide) zeros n [])
  | runToStep _ hcount =>
      rwa [Text.eq_of_numeral_eq htext]
  | inject payload =>
      exact absurd htext (Text.numeral_ne_cons (by decide) zeros n payload.toList)

theorem trim_numeral
    (zeros n : Nat) :
    Text.trim (Text.numeral zeros n) = Text.numeral zeros n :=
  Text.trim_eq_self fun _ hc =>
    Timestamp.not_isBlank_of_isDigit (Text.isDigit_of_mem_numeral hc)

theorem trim_plus
    (payload : List Char) :
    Text.trim ('+' :: payload) = '+' :: Text.trimEnd payload := by
  have hplus : ∀ c ∈ ('+' :: payload).head?, ¬ Text.isBlank c = true := by
    rintro c ⟨⟩
    decide
  rw [Text.trim, Text.trimStart_eq_self hplus, Text.trimEnd_cons (by decide)]

/-- The blanks at the end of a payload are lost. -/
theorem parse_inject
    (payload : String) :
    parse ("+" ++ payload) =
      .ok (.inject (String.ofList (Text.trimEnd payload.toList))) := by
  have htext : ("+" ++ payload).toList = '+' :: payload.toList := by
    simp
  apply Written.parse_eq
  rw [htext, trim_plus]
  simpa using Written.inject (String.ofList (Text.trimEnd payload.toList))

/-- What a command is written as is trimmed already, except for the end of a payload. -/
theorem Written.trim_eq_iff
    {command : Command}
    {text : List Char}
    (h : Written command text) :
    Text.trim text = text ↔ command.Ended := by
  cases h with
  | step hc =>
      rcases hc with rfl | rfl <;> exact iff_of_true (by decide) trivial
  | quit hc =>
      rcases hc with rfl | rfl <;> exact iff_of_true (by decide) trivial
  | runToStep zeros _ =>
      exact iff_of_true (trim_numeral _ _) trivial
  | inject payload =>
      rw [trim_plus, List.cons_inj_right]
      exact Text.trimEnd_eq_self_iff _

/-- How a line is read. -/
structure Reads (line : String) : Prop where
  /-- Commands are recognized by the text between the blanks. -/
  accepts : ∀ command,
    parse line = .ok command ↔ Written command (Text.trim line.toList)
  /-- Any other line is refused, and the error shows that text. -/
  rejects : ∀ error,
    parse line = .error error ↔
      error = .invalid (trimmed line) ∧
      ∀ command, ¬ Written command (Text.trim line.toList)
  /-- Letters are told apart by their small form. -/
  steps : parse line = .ok .step ↔ (Text.trim line.toList).flatMap Text.lowercase = ['s']
  quits : parse line = .ok .quit ↔ (Text.trim line.toList).flatMap Text.lowercase = ['q']
  /-- A number is too large from `2 ^ 64` on. -/
  overflow : ∀ zeros n, line.toList = Text.numeral zeros n → UInt64.size ≤ n →
    parse line = .error (.invalid line)
  /-- A command is read as it was written, unless blanks stand at its end. -/
  written : ∀ command, Written command line.toList →
    (parse line = .ok command ↔ command.Ended)
  /-- These blanks are lost. -/
  payload : ∀ payload, line = "+" ++ payload →
    parse line = .ok (.inject (String.ofList (Text.trimEnd payload.toList)))

theorem reads
    (line : String) :
    Reads line where
  accepts := parse_eq_ok_iff line
  rejects := parse_eq_error_iff line
  steps := by
    rw [parse_eq_ok_iff, written_step_iff, Text.letterPair_s.flatMap_lowercase_iff]
  quits := by
    rw [parse_eq_ok_iff, written_quit_iff, Text.letterPair_q.flatMap_lowercase_iff]
  overflow := by
    intro zeros n hline hsize
    rw [parse_eq_error_iff, trimmed, hline, trim_numeral, ← hline, String.ofList_toList]
    refine ⟨rfl, ?_⟩
    intro command hwritten
    have := lt_of_written_numeral (hline ▸ hwritten)
    omega
  written := by
    intro command hwritten
    rw [parse_eq_ok_iff]
    constructor
    · intro htrimmed
      cases command with
      | inject payload =>
          rw [← hwritten.trim_eq_iff, htrimmed.eq_of_inject, hwritten.eq_of_inject]
      | _ => trivial
    · intro hended
      rwa [hwritten.trim_eq_iff.2 hended]
  payload := by
    rintro payload rfl
    exact parse_inject payload

/-- The payload `a` with a blank behind it is read without the blank. -/
theorem blank_lost :
    Written (.inject "a ") "+a ".toList ∧
    parse "+a " = .ok (.inject "a") ∧
    parse "+a " ≠ .ok (.inject "a ") := by
  have hread : parse "+a " = .ok (.inject "a") := rfl
  refine ⟨.inject "a ", hread, ?_⟩
  rw [hread]
  decide

end Command
end Shell
end Flowchart

import Mathlib.Data.List.Forall2

/-!
# Texts and their tokens

A scanner takes a text character by character and keeps the tokens that are complete.  A
token may have no end of its own, as a number or a word has none.  It is complete in front
of a character that cannot go on with it, and there the scanner does what it would do
between tokens.

So texts can be put together.  The tokens of the whole are those of its parts, if a part
that may leave a token open is followed by such a character.
-/

namespace Flowchart

/-- What a scanner has to do for its texts to be put together. -/
structure Scanning (σ τ : Type) where
  /-- Between tokens, after the completed ones, newest first. -/
  between : List τ → σ
  step : σ → Char → Option σ
  /-- The scanner has these tokens, newest first, if nothing goes on with the last one. -/
  Holds : σ → List τ → Prop
  /-- The character goes on with no token. -/
  Ends : Char → Prop
  holds_between : ∀ tokens, Holds (between tokens) tokens
  step_eq : ∀ s tokens c, Holds s tokens → Ends c → step s c = step (between tokens) c

namespace Scanning

variable {σ τ : Type} {S : Scanning σ τ}

/-- The text has exactly these tokens, and the scanner is between tokens after it. -/
def Passes (S : Scanning σ τ) (text : List Char) (tokens : List τ) : Prop :=
  ∀ before, text.foldlM S.step (S.between before) =
    some (S.between (tokens.reverse ++ before))

/-- The text has these tokens, if nothing goes on with the last one. -/
def Scans (S : Scanning σ τ) (text : List Char) (tokens : List τ) : Prop :=
  ∀ before, ∃ s, text.foldlM S.step (S.between before) = some s ∧
    S.Holds s (tokens.reverse ++ before)

/-- The text begins with a character that goes on with no token. -/
def Apart (S : Scanning σ τ) (text : List Char) : Prop :=
  ∃ c rest, text = c :: rest ∧ S.Ends c

variable {text text' : List Char} {tokens tokens' : List τ}

theorem Apart.append
    (h : S.Apart text)
    (text' : List Char) :
    S.Apart (text ++ text') := by
  obtain ⟨c, rest, rfl, hc⟩ := h
  exact ⟨c, rest ++ text', rfl, hc⟩

theorem Passes.scans
    (h : S.Passes text tokens) :
    S.Scans text tokens :=
  fun before => ⟨_, h before, S.holds_between _⟩

theorem Passes.append
    (h : S.Passes text tokens)
    (h' : S.Passes text' tokens') :
    S.Passes (text ++ text') (tokens ++ tokens') := by
  intro before
  rw [List.foldlM_append, h before, Option.bind_eq_bind, Option.bind_some, h']
  simp

theorem Passes.append_scans
    (h : S.Passes text tokens)
    (h' : S.Scans text' tokens') :
    S.Scans (text ++ text') (tokens ++ tokens') := by
  intro before
  obtain ⟨s, hs, hholds⟩ := h' (tokens.reverse ++ before)
  refine ⟨s, ?_, by simpa using hholds⟩
  rw [List.foldlM_append, h before, Option.bind_eq_bind, Option.bind_some, hs]

/-- What comes behind a text that stands apart finds the scanner as if between tokens. -/
theorem Scans.foldlM_append
    (h : S.Scans text tokens)
    (happart : S.Apart text')
    (before : List τ) :
    (text ++ text').foldlM S.step (S.between before) =
      text'.foldlM S.step (S.between (tokens.reverse ++ before)) := by
  obtain ⟨c, rest, rfl, hc⟩ := happart
  obtain ⟨s, hs, hholds⟩ := h before
  rw [List.foldlM_append, hs, Option.bind_eq_bind, Option.bind_some, List.foldlM_cons,
    S.step_eq s _ c hholds hc, List.foldlM_cons]

theorem Scans.append_passes
    (h : S.Scans text tokens)
    (happart : S.Apart text')
    (h' : S.Passes text' tokens') :
    S.Passes (text ++ text') (tokens ++ tokens') := by
  intro before
  rw [h.foldlM_append happart, h']
  simp

theorem Scans.append
    (h : S.Scans text tokens)
    (happart : S.Apart text')
    (h' : S.Scans text' tokens') :
    S.Scans (text ++ text') (tokens ++ tokens') := by
  intro before
  obtain ⟨s, hs, hholds⟩ := h' (tokens.reverse ++ before)
  exact ⟨s, by rw [h.foldlM_append happart, hs], by simpa using hholds⟩

/-- Texts with a separator between them have their tokens with its tokens between them. -/
theorem Scans.intercalate
    {separator : List Char}
    {mark : List τ}
    (happart : S.Apart separator)
    (hseparator : S.Passes separator mark)
    {texts : List (List Char)}
    {tokenss : List (List τ)}
    (h : List.Forall₂ S.Scans texts tokenss)
    (hne : texts ≠ []) :
    S.Scans (separator.intercalate texts) (mark.intercalate tokenss) := by
  induction h with
  | nil =>
      exact absurd rfl hne
  | cons hfirst hrest ih =>
      cases hrest with
      | nil =>
          simpa using hfirst
      | cons hsecond hmore =>
          rw [List.intercalate_cons_cons, List.intercalate_cons_cons]
          exact (hfirst.append_passes happart hseparator).append_scans (ih (by simp))

/-- A number above zero is taken digit by digit, by induction on all but the last. -/
theorem foldlM_toDigits
    {step : σ → Char → Option σ}
    {start : σ}
    (value : Nat → σ)
    (hfirst : ∀ d, 0 < d → d < 10 → step start d.digitChar = some (value d))
    (hnext : ∀ n d, d < 10 → step (value n) d.digitChar = some (value (n * 10 + d)))
    {n : Nat}
    (hpos : 0 < n) :
    (Nat.toDigits 10 n).foldlM step start = some (value n) := by
  induction n using Nat.strongRecOn with
  | ind n ih =>
      by_cases hlt : n < 10
      · rw [Nat.toDigits_of_lt_base hlt, List.foldlM_cons, hfirst n hpos hlt]
        rfl
      · have hmod : n % 10 < 10 := Nat.mod_lt _ (by decide)
        rw [Nat.toDigits_of_base_le (by decide) (by omega), List.foldlM_append,
          ih (n / 10) (by omega) (by omega), Option.bind_eq_bind, Option.bind_some,
          List.foldlM_cons, hnext _ _ hmod, Nat.div_add_mod']
        rfl

end Scanning
end Flowchart

import Flowchart.Json.Reader
import Flowchart.Json.Writer
import Flowchart.Proofs.Scanning

/-!
# Texts that spell values

JSON text that is written is read back.  The scanner finds its tokens and the builder
makes the value of them, whatever was open before, so texts can be put together and the
values are put together with them.

A number has no end of its own.  After one the scanner is not between tokens, but it does
with whatever may follow a value what it would do there.
-/

namespace Flowchart
namespace Json

/-! ### Scanning -/

/-- The characters that may follow a value in a text that is written. -/
def EndsValue (c : Char) : Prop :=
  c = ',' ∨ c = ']' ∨ c = '\x7d'

namespace Scanner

/-- The scanner has these tokens, newest first, if the text ends here or a character
follows that ends a value. -/
structure Holds (s : Scanner) (tokens : List Token) : Prop where
  finish_eq : s.finish = some tokens.reverse
  step_eq : ∀ c, EndsValue c → s.step c = stepBetween tokens c

theorem holds_between
    (tokens : List Token) :
    Holds ⟨.between, tokens⟩ tokens :=
  ⟨rfl, fun _ _ => rfl⟩

/-- A natural number in digits is complete wherever it stops. -/
theorem holds_number
    {part : NumberPart}
    (hpart : part = .zero ∨ part = .whole)
    (n : Nat)
    (tokens : List Token) :
    Holds ⟨.number part (some n), tokens⟩ (.number (some n) :: tokens) where
  finish_eq := by
    rcases hpart with rfl | rfl <;> rfl
  step_eq := by
    rintro c (rfl | rfl | rfl) <;>
      rcases hpart with rfl | rfl <;> rfl

/-- The text has exactly these tokens, and the scanner is between tokens after it. -/
def Passes (text : List Char) (tokens : List Token) : Prop :=
  ∀ before, text.foldlM step ⟨.between, before⟩ = some ⟨.between, tokens.reverse ++ before⟩

/-- The text has these tokens, if it ends or a character follows that ends a value. -/
def Scans (text : List Char) (tokens : List Token) : Prop :=
  ∀ before, ∃ s, text.foldlM step ⟨.between, before⟩ = some s ∧
    s.Holds (tokens.reverse ++ before)

/-- What putting texts together needs of the scanner. -/
def scanning : Scanning Scanner Token where
  between tokens := ⟨.between, tokens⟩
  step := step
  Holds := Holds
  Ends := EndsValue
  holds_between := holds_between
  step_eq := fun _ _ _ hholds hc => hholds.step_eq _ hc

variable {text text' : List Char} {tokens tokens' : List Token}

theorem Passes.scans
    (h : Passes text tokens) :
    Scans text tokens :=
  Scanning.Passes.scans (S := scanning) h

theorem Passes.append
    (h : Passes text tokens)
    (h' : Passes text' tokens') :
    Passes (text ++ text') (tokens ++ tokens') :=
  Scanning.Passes.append (S := scanning) h h'

theorem Passes.append_scans
    (h : Passes text tokens)
    (h' : Scans text' tokens') :
    Scans (text ++ text') (tokens ++ tokens') :=
  Scanning.Passes.append_scans (S := scanning) h h'

/-- A character that ends a value is a token after it as well. -/
theorem Scans.append_passes
    (h : Scans text tokens)
    {c : Char}
    (hc : EndsValue c)
    (h' : Passes [c] tokens') :
    Passes (text ++ [c]) (tokens ++ tokens') :=
  Scanning.Scans.append_passes (S := scanning) h ⟨c, [], rfl, hc⟩ h'

/-- Texts with commas between them have their tokens with commas between them. -/
theorem scans_intercalate
    {texts : List (List Char)}
    {tokenss : List (List Token)}
    (h : List.Forall₂ Scans texts tokenss)
    (hne : texts ≠ []) :
    Scans ([','].intercalate texts) ([Token.comma].intercalate tokenss) :=
  Scanning.Scans.intercalate (S := scanning) ⟨',', [], rfl, .inl rfl⟩ (fun _ => rfl) h hne

/-! ### Words, numbers and strings -/

theorem passes_null :
    Passes "null".toList [.null] :=
  fun _ => rfl

theorem passes_writeBool
    (b : Bool) :
    Passes (writeBool b).toList [.bool b] := by
  cases b <;> exact fun _ => rfl

/-- A digit other than zero begins a number. -/
theorem stepBetween_digit
    (before : List Token)
    {d : Nat}
    (hpos : 0 < d)
    (hlt : d < 10) :
    stepBetween before d.digitChar = some ⟨.number .whole (some d), before⟩ := by
  match d with
  | 1 | 2 | 3 | 4 | 5 | 6 | 7 | 8 | 9 => rfl

/-- A number above zero is scanned digit by digit. -/
theorem foldlM_step_toDigits
    (before : List Token)
    {n : Nat}
    (hpos : 0 < n) :
    (Nat.toDigits 10 n).foldlM step ⟨.between, before⟩ =
      some ⟨.number .whole (some n), before⟩ := by
  refine Scanning.foldlM_toDigits (fun n => (⟨.number .whole (some n), before⟩ : Scanner))
    ?_ ?_ hpos
  · intro d hpos hlt
    exact stepBetween_digit before hpos hlt
  · intro n d hlt
    simp [step, continueNumber, hlt, Nat.toNat_digitChar_of_lt_ten]

theorem scans_toString
    (n : Nat) :
    Scans (toString n).toList [.number (some n)] := by
  intro before
  rw [Nat.toString_eq_repr, Nat.toList_repr]
  rcases Nat.eq_zero_or_pos n with rfl | hpos
  · exact ⟨⟨.number .zero (some 0), before⟩, rfl, holds_number (.inl rfl) 0 before⟩
  · exact ⟨_, foldlM_step_toDigits before hpos, holds_number (.inr rfl) n before⟩

theorem hexDigit?_hexDigit
    {n : Nat}
    (hlt : n < 16) :
    hexDigit? (hexDigit n) = some n := by
  have hall : ∀ n < 16, hexDigit? (hexDigit n) = some n := by
    decide
  exact hall n hlt

/-- A character comes back from what is written for it. -/
theorem foldlM_step_writtenChar
    (before : List Token)
    (units : List Nat)
    (c : Char) :
    (writtenChar c).foldlM step ⟨.text .plain units, before⟩ =
      some ⟨.text .plain (c.toNat :: units), before⟩ := by
  -- the five escapes with a letter of their own compute; the rest is by code point
  unfold writtenChar
  split
  case h_6 hquote hbackslash _ _ _ =>
    split_ifs with hb hf hcontrol
    · rw [hb]
      rfl
    · rw [hf]
      rfl
    · have hhigh : hexDigit? (hexDigit (c.toNat / 16)) = some (c.toNat / 16) :=
        hexDigit?_hexDigit (by omega)
      have hlow : hexDigit? (hexDigit (c.toNat % 16)) = some (c.toNat % 16) :=
        hexDigit?_hexDigit (by omega)
      have hzero : hexDigit? '0' = some 0 := rfl
      simp [step, stepText, hhigh, hlow, hzero, Nat.div_add_mod']
    · have hquote' : c ≠ '"' := hquote
      have hbackslash' : c ≠ '\\' := hbackslash
      simp [step, stepText, hquote', hbackslash', hcontrol]
  all_goals rfl

theorem foldlM_step_string
    (before : List Token)
    (units : List Nat)
    (cs : List Char) :
    (cs.flatMap writtenChar).foldlM step ⟨.text .plain units, before⟩ =
      some ⟨.text .plain ((cs.map Char.toNat).reverse ++ units), before⟩ := by
  induction cs generalizing units with
  | nil => rfl
  | cons c cs ih =>
      rw [List.flatMap_cons, List.foldlM_append, foldlM_step_writtenChar,
        Option.bind_eq_bind, Option.bind_some, ih]
      simp

/-- No character is half of a surrogate pair. -/
theorem not_surrogate
    (c : Char) :
    isHighSurrogate c.toNat = false ∧ isLowSurrogate c.toNat = false := by
  have hvalid : c.toNat < 0xD800 ∨ 0xDFFF < c.toNat ∧ c.toNat < 0x110000 := c.valid
  simp only [isHighSurrogate, isLowSurrogate, Bool.and_eq_false_iff,
    decide_eq_false_iff_not]
  omega

theorem decodeUnits_map_toNat
    (cs : List Char) :
    decodeUnits (cs.map Char.toNat) = some cs := by
  induction cs with
  | nil => rfl
  | cons c cs ih =>
      obtain ⟨hhigh, hlow⟩ := not_surrogate c
      cases cs with
      | nil => simp [decodeUnits, hhigh, hlow]
      | cons c' cs =>
          simp only [List.map_cons] at ih ⊢
          simp [decodeUnits, hhigh, hlow, ih]

/-- Whatever its characters, a string is one token when it is written. -/
theorem passes_writeString
    (s : String) :
    Passes (writeString s).toList [.text (some s)] := by
  intro before
  have hopen : step ⟨.between, before⟩ '"' = some ⟨.text .plain [], before⟩ := rfl
  rw [writeString, String.toList_ofList, List.cons_append, List.foldlM_cons, hopen,
    Option.bind_eq_bind, Option.bind_some, List.foldlM_append, foldlM_step_string,
    Option.bind_eq_bind, Option.bind_some]
  simp [step, stepText, decodeUnits_map_toNat]

end Scanner

/-! ### Building -/

namespace Builder

/-- The tokens are those of one value, whatever is open before it. -/
def Builds (tokens : List Token) (value : Value) : Prop :=
  ∀ frames, tokens.foldlM step (.value frames) = some (.after value frames)

/-- The tokens are those of one member of an object. -/
inductive BuildsMember : List Token → Option String × Value → Prop
  | intro (name : Option String) {tokens : List Token} {value : Value} :
      Builds tokens value → BuildsMember (.text name :: .colon :: tokens) (name, value)

/-- An item may begin, after some that are complete, newest first. -/
inductive ItemBegins (frames : List Frame) : List Value → Builder → Prop
  | first : ItemBegins frames [] (.firstItem frames)
  | next (before : List Value) : ItemBegins frames before
    (.value (.array before :: frames))

/-- Some items are complete, newest first. -/
inductive ItemEnds (frames : List Frame) : List Value → Builder → Prop
  | intro (value : Value) (before : List Value) :
      ItemEnds frames (value :: before) (.after value (.array before :: frames))

/-- A member may begin, after some that are complete, newest first. -/
inductive MemberBegins (frames : List Frame) :
    List (Option String × Value) → Builder → Prop
  | intro (first : Bool) (before : List (Option String × Value)) :
      MemberBegins frames before (.name first before frames)

/-- Some members are complete, newest first. -/
inductive MemberEnds (frames : List Frame) : List (Option String × Value) → Builder → Prop
  | intro (name : Option String) (value : Value) (before : List (Option String × Value)) :
      MemberEnds frames ((name, value) :: before)
        (.after value (.member before name :: frames))

/-- Parts with commas between them, if each part leads from where it may begin to where it
is complete, and a comma to where the next one may begin. -/
theorem foldlM_intercalate
    {ι : Type}
    {IsPart : List Token → ι → Prop}
    {Begins Ends : List ι → Builder → Prop}
    (hpart : ∀ tokens part, IsPart tokens part → ∀ before s, Begins before s →
      ∃ s', tokens.foldlM step s = some s' ∧ Ends (part :: before) s')
    (hcomma : ∀ before s, Ends before s → ∃ s', step s .comma = some s' ∧ Begins before s')
    {tokenss : List (List Token)}
    {parts : List ι}
    (h : List.Forall₂ IsPart tokenss parts)
    (hne : tokenss ≠ [])
    {before : List ι}
    {s : Builder}
    (hs : Begins before s) :
    ∃ s', ([Token.comma].intercalate tokenss).foldlM step s = some s' ∧
      Ends (parts.reverse ++ before) s' := by
  induction h generalizing before s with
  | nil =>
      exact absurd rfl hne
  | cons hfirst hrest ih =>
      obtain ⟨s₁, hs₁, hends⟩ := hpart _ _ hfirst before s hs
      cases hrest with
      | nil =>
          exact ⟨s₁, by rw [List.intercalate_singleton, hs₁], hends⟩
      | cons hsecond hmore =>
          obtain ⟨s₂, hs₂, hbegins⟩ := hcomma _ _ hends
          obtain ⟨s₃, hs₃, hlast⟩ := ih (by simp) hbegins
          refine ⟨s₃, ?_, by simpa using hlast⟩
          rw [List.intercalate_cons_cons, List.append_assoc, List.foldlM_append, hs₁,
            Option.bind_eq_bind, Option.bind_some, List.singleton_append, List.foldlM_cons,
            hs₂, Option.bind_eq_bind, Option.bind_some, hs₃]

theorem Builds.item
    {tokens : List Token}
    {value : Value}
    (h : Builds tokens value)
    (frames : List Frame)
    (before : List Value)
    (s : Builder)
    (hs : ItemBegins frames before s) :
    ∃ s', tokens.foldlM step s = some s' ∧ ItemEnds frames (value :: before) s' := by
  have hvalue := h (.array before :: frames)
  refine ⟨_, ?_, .intro value before⟩
  cases hs with
  | next => exact hvalue
  | first =>
      -- no value begins with the token that would end the array here
      cases tokens with
      | nil => cases hvalue
      | cons token tokens =>
          cases token with
          | closeArray => cases hvalue
          | _ => exact hvalue

theorem BuildsMember.member
    {tokens : List Token}
    {member : Option String × Value}
    (h : BuildsMember tokens member)
    (frames : List Frame)
    (before : List (Option String × Value))
    (s : Builder)
    (hs : MemberBegins frames before s) :
    ∃ s', tokens.foldlM step s = some s' ∧ MemberEnds frames (member :: before) s' := by
  cases h with
  | intro name h =>
      cases hs with
      | intro first =>
          refine ⟨_, ?_, .intro name _ before⟩
          rw [List.foldlM_cons]
          cases first <;> exact h _

/-- Parts with commas between them and a token behind them that completes the whole. -/
theorem foldlM_group
    {ι : Type}
    {IsPart : List Token → ι → Prop}
    {Begins Ends : List ι → Builder → Prop}
    (hpart : ∀ tokens part, IsPart tokens part → ∀ before s, Begins before s →
      ∃ s', tokens.foldlM step s = some s' ∧ Ends (part :: before) s')
    (hcomma : ∀ before s, Ends before s → ∃ s', step s .comma = some s' ∧ Begins before s')
    {close : Token}
    (whole : List ι → Builder)
    (hclose : ∀ before s, Ends before s → step s close = some (whole before.reverse))
    {s : Builder}
    (hs : Begins [] s)
    (hempty : step s close = some (whole []))
    {tokenss : List (List Token)}
    {parts : List ι}
    (h : List.Forall₂ IsPart tokenss parts) :
    ([Token.comma].intercalate tokenss ++ [close]).foldlM step s = some (whole parts) := by
  by_cases hne : tokenss = []
  · subst hne
    cases h
    simpa using hempty
  · obtain ⟨s', hs', hends⟩ := foldlM_intercalate hpart hcomma h hne hs
    rw [List.foldlM_append, hs', Option.bind_eq_bind, Option.bind_some]
    simpa using hclose _ _ hends

theorem builds_array
    {tokenss : List (List Token)}
    {values : List Value}
    (h : List.Forall₂ Builds tokenss values) :
    Builds (.openArray :: [Token.comma].intercalate tokenss ++ [.closeArray])
      (.array values) := by
  intro frames
  refine foldlM_group (fun _ _ hitem => hitem.item frames) ?_
    (fun values => .after (.array values) frames) ?_ .first rfl h
  · rintro _ _ ⟨value, before⟩
    exact ⟨_, rfl, .next (value :: before)⟩
  · rintro _ _ ⟨value, before⟩
    rfl

theorem builds_object
    {tokenss : List (List Token)}
    {members : List (Option String × Value)}
    (h : List.Forall₂ BuildsMember tokenss members) :
    Builds (.openObject :: [Token.comma].intercalate tokenss ++ [.closeObject])
      (.object members) := by
  intro frames
  refine foldlM_group (fun _ _ hmember => hmember.member frames) ?_
    (fun members => .after (.object members) frames) ?_ (.intro true []) rfl h
  · rintro _ _ ⟨name, value, before⟩
    exact ⟨_, rfl, .intro false ((name, value) :: before)⟩
  · rintro _ _ ⟨name, value, before⟩
    rfl

end Builder

/-! ### Spelling -/

open Scanner Builder

/-- The text is that of the value, wherever a value may stand. -/
def Spells (text : String) (value : Value) : Prop :=
  ∃ tokens, Scans text.toList tokens ∧ Builds tokens value

/-- A text that spells a value is read as that value. -/
theorem read?_of_spells
    {text : String}
    {value : Value}
    (h : Spells text value) :
    read? text = some value := by
  obtain ⟨tokens, hscans, hbuilds⟩ := h
  obtain ⟨s, hs, hholds⟩ := hscans []
  have htokens : tokens? text.toList = some tokens := by
    rw [tokens?, Scanner.start, hs, Option.bind_some, hholds.finish_eq]
    simp
  rw [read?, htokens, Option.bind_some, ofTokens?, hbuilds [], Option.bind_some]
  rfl

theorem spells_null :
    Spells "null" .null :=
  ⟨_, passes_null.scans, fun _ => rfl⟩

theorem spells_writeBool
    (b : Bool) :
    Spells (writeBool b) (.bool b) :=
  ⟨_, (passes_writeBool b).scans, fun _ => rfl⟩

theorem spells_toString
    (n : Nat) :
    Spells (toString n) (.number (some n)) :=
  ⟨_, scans_toString n, fun _ => rfl⟩

theorem spells_writeString
    (s : String) :
    Spells (writeString s) (.text (some s)) :=
  ⟨_, (passes_writeString s).scans, fun _ => rfl⟩

/-- The text is that of the member of an object. -/
def SpellsMember (text : String) (member : Option String × Value) : Prop :=
  ∃ tokens, Scans text.toList tokens ∧ BuildsMember tokens member

theorem spellsMember
    (name : String)
    {text : String}
    {value : Value}
    (h : Spells text value) :
    SpellsMember (writeString name ++ ":" ++ text) (some name, value) := by
  obtain ⟨tokens, hscans, hbuilds⟩ := h
  refine ⟨_, ?_, .intro (some name) hbuilds⟩
  have hcolon : Passes [':'] [.colon] := fun _ => rfl
  have hmember := ((passes_writeString name).append hcolon).append_scans hscans
  simpa using hmember

/-- Tokens for each of several texts. -/
theorem exists_tokens
    {ι : Type}
    {IsPart : List Token → ι → Prop}
    {texts : List String}
    {parts : List ι}
    (h : List.Forall₂
      (fun text part => ∃ tokens, Scans text.toList tokens ∧ IsPart tokens part)
      texts parts) :
    ∃ tokenss, List.Forall₂ Scans (texts.map String.toList) tokenss ∧
      List.Forall₂ IsPart tokenss parts := by
  induction h with
  | nil => exact ⟨[], .nil, .nil⟩
  | cons hfirst _ ih =>
      obtain ⟨tokens, hscans, hpart⟩ := hfirst
      obtain ⟨tokenss, hscanss, hparts⟩ := ih
      exact ⟨tokens :: tokenss, .cons hscans hscanss, .cons hpart hparts⟩

/-- Texts between an opening and a closing character, with commas between them. -/
theorem passes_enclosed
    {texts : List (List Char)}
    {tokenss : List (List Token)}
    (h : List.Forall₂ Scans texts tokenss)
    {first last : Char}
    {opening closing : Token}
    (hfirst : Passes [first] [opening])
    (hends : EndsValue last)
    (hlast : Passes [last] [closing]) :
    Passes (first :: [','].intercalate texts ++ [last])
      (opening :: [Token.comma].intercalate tokenss ++ [closing]) := by
  cases h with
  | nil => exact hfirst.append hlast
  | cons hhead htail =>
      have hitems := scans_intercalate (.cons hhead htail) (by simp)
      exact (hfirst.append_scans hitems).append_passes hends hlast

theorem spells_writeArray
    {items : List String}
    {values : List Value}
    (h : List.Forall₂ Spells items values) :
    Spells (writeArray items) (.array values) := by
  obtain ⟨tokenss, hscans, hbuilds⟩ := exists_tokens h
  have hopen : Passes ['['] [.openArray] := fun _ => rfl
  have hclose : Passes [']'] [.closeArray] := fun _ => rfl
  have hpasses := passes_enclosed hscans hopen (.inr (.inl rfl)) hclose
  exact ⟨_, by simpa [writeArray] using hpasses.scans, builds_array hbuilds⟩

theorem spells_writeObject
    {members : List (String × String)}
    {values : List (Option String × Value)}
    (h : List.Forall₂ (fun m v => v.1 = some m.1 ∧ Spells m.2 v.2) members values) :
    Spells (writeObject members) (.object values) := by
  have hmembers : List.Forall₂ SpellsMember
      (members.map fun m => writeString m.1 ++ ":" ++ m.2) values := by
    rw [List.forall₂_map_left_iff]
    refine h.imp ?_
    rintro m ⟨_, value⟩ ⟨rfl, hspells⟩
    exact spellsMember m.1 hspells
  obtain ⟨tokenss, hscans, hbuilds⟩ := exists_tokens hmembers
  have hopen : Passes ['\x7b'] [.openObject] := fun _ => rfl
  have hclose : Passes ['\x7d'] [.closeObject] := fun _ => rfl
  have hpasses := passes_enclosed hscans hopen (.inr (.inr rfl)) hclose
  exact ⟨_, by simpa [writeObject] using hpasses.scans, builds_object hbuilds⟩

end Json
end Flowchart

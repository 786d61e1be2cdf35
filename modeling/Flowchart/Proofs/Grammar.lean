import Flowchart.Code
import Flowchart.Proofs.Cutting

/-!
# The grammar of transition codes

A written code is a code together with the blanks around its parts and the order of its
branches.  Reading what is written gives the code back, and nothing else can be read: a
text that has an arrow and is none of the written forms has a fault, and the first fault
is reported.

## Main definitions

* `Code.Branch` is a branch as it is written, `Code.Form` a code as it is written.
* `Code.IsWritten` says of a text and a code that the code is written in the text.
* `Code.BranchFault` is what can be wrong with a piece between commas, `Code.Fault` with a
  text that has an arrow.
-/

namespace Flowchart

/-- A number of blanks, of any kind. -/
structure Blanks where
  text : List Char
  allBlank : Text.AllBlank text

namespace Code

open Text (HasArrow)

/-! ### Written codes -/

/-- A text that can stand for the target of a branch. -/
structure Target where
  text : List Char
  ne_nil : text ≠ []
  bare : Text.Bare text
  no_comma : ',' ∉ text

/-- A text that stands for a target by itself. -/
structure Token where
  text : List Char
  ne_nil : text ≠ []
  bare : Text.Bare text
  ne_zero : text ≠ ['0']
  no_arrow : ¬ HasArrow text

/-- A branch as it is written: a letter, an arrow and a target, with blanks around each. -/
structure Branch where
  before : Blanks
  outcome : Bool
  behind : Blanks
  ahead : Blanks
  target : Target
  after : Blanks

def Branch.text (b : Branch) : List Char :=
  b.before.text ++ (label b.outcome).toList ++ b.behind.text ++
    '-' :: '>' :: (b.ahead.text ++ b.target.text ++ b.after.text)

/-- The target that a branch names. -/
def Branch.names (b : Branch) : String :=
  String.ofList b.target.text

/-- A code as it is written. -/
inductive Form where
  | stop (before after : Blanks)
  | next (blanks : Blanks)
  | goto (before : Blanks) (token : Token) (after : Blanks)
  | branch (written : Branch)
  | both (first second : Branch) (differ : first.outcome ≠ second.outcome)

namespace Form

def text : Form → List Char
  | stop before after => before.text ++ ['0'] ++ after.text
  | next blanks => blanks.text
  | goto before token after => before.text ++ token.text ++ after.text
  | branch written => written.text
  | both first second _ => first.text ++ ',' :: second.text

/-- The code that is written. -/
def code : Form → Code
  | stop _ _ => .stop
  | next _ => .next
  | goto _ token _ => .goto (String.ofList token.text)
  | branch written => .branch written.outcome written.names
  | both first second _ =>
    if first.outcome then .both first.names second.names
    else .both second.names first.names

end Form

/-- A text in which a code is written. -/
def IsWritten (text : List Char) : Code → Prop
  | .stop => Text.trim text = ['0']
  | .next => Text.trim text = []
  | .goto target =>
    target = String.ofList (Text.trim text) ∧
      Text.trim text ≠ ['0'] ∧ Text.trim text ≠ [] ∧ ¬ HasArrow (Text.trim text)
  | .branch outcome target =>
    ∃ b : Branch, text = b.text ∧ b.outcome = outcome ∧ b.names = target
  | .both onTrue onFalse =>
    ∃ t f : Branch, t.outcome = true ∧ t.names = onTrue ∧
      f.outcome = false ∧ f.names = onFalse ∧
      (text = t.text ++ ',' :: f.text ∨ text = f.text ++ ',' :: t.text)

/-! ### Faults -/

/-- Why a piece is no branch.  A missing arrow comes before an unknown label, and that
before a missing target. -/
inductive BranchFault : List Char → CodeError → Prop
  | noArrow {piece : List Char} (h : ¬ HasArrow piece) :
      BranchFault piece (.missingArrow (String.ofList (Text.trim piece)))
  | noLabel {before after : List Char} (hfirst : ¬ HasArrow before)
      (h : ∀ outcome, Text.trim before ≠ (label outcome).toList) :
      BranchFault (before ++ '-' :: '>' :: after)
        (.unknownLabel (String.ofList (Text.trim before)))
  | noTarget {before after : List Char} {outcome : Bool}
      (hlabel : Text.trim before = (label outcome).toList) (h : Text.AllBlank after) :
      BranchFault (before ++ '-' :: '>' :: after)
        (.missingTarget (String.ofList (Text.trim (before ++ '-' :: '>' :: after))))

/-- Why a text with an arrow is no code.  Of two pieces the first that is no branch
counts. -/
inductive Fault : List Char → CodeError → Prop
  | tooMany {text : List Char} (h : 2 ≤ text.count ',') :
      Fault text (.tooManyBranches (text.count ',' + 1))
  | single {piece : List Char} {e : CodeError} (hpiece : ',' ∉ piece)
      (h : BranchFault piece e) :
      Fault piece e
  | first {first second : List Char} {e : CodeError} (hfirst : ',' ∉ first)
      (hsecond : ',' ∉ second) (h : BranchFault first e) :
      Fault (first ++ ',' :: second) e
  | second (first : Branch) {second : List Char} {e : CodeError} (hsecond : ',' ∉ second)
      (h : BranchFault second e) :
      Fault (first.text ++ ',' :: second) e
  | repeated (first second : Branch) (h : first.outcome = second.outcome) :
      Fault (first.text ++ ',' :: second.text) (.repeatedLabel first.outcome)

/-! ### One branch -/

@[simp] theorem toList_label
    (outcome : Bool) :
    (label outcome).toList = [if outcome then 'T' else 'F'] := by
  cases outcome <;> rfl

theorem bare_label
    (outcome : Bool) :
    Text.Bare (label outcome).toList := by
  cases outcome <;> constructor <;> simp <;> decide

/-- A piece that is cut is read by its two parts. -/
theorem parseBranch_of_cut
    {before : List Char}
    (hfirst : ¬ HasArrow before)
    (after : List Char) :
    parseBranch (before ++ '-' :: '>' :: after) =
      if Text.trim before = ['T'] ∨ Text.trim before = ['F'] then
        if Text.trim after = [] then
          .error (.missingTarget
            (String.ofList (Text.trim (before ++ '-' :: '>' :: after))))
        else .ok (Text.trim before = ['T'], String.ofList (Text.trim after))
      else .error (.unknownLabel (String.ofList (Text.trim before))) := by
  unfold parseBranch
  rw [(Text.cutArrow_eq_some_iff _ before after).2 ⟨rfl, hfirst⟩]

theorem parseBranch_of_not_hasArrow
    {piece : List Char}
    (h : ¬ HasArrow piece) :
    parseBranch piece = .error (.missingArrow (String.ofList (Text.trim piece))) := by
  unfold parseBranch
  rw [(Text.cutArrow_eq_none_iff piece).2 h]

/-- A text has no arrow, or it is cut at its first one. -/
theorem not_hasArrow_or_cut
    (text : List Char) :
    ¬ HasArrow text ∨
    ∃ before after, ¬ HasArrow before ∧ text = before ++ '-' :: '>' :: after := by
  cases hcut : Text.cutArrow text with
  | none =>
      exact .inl ((Text.cutArrow_eq_none_iff text).1 hcut)
  | some cut =>
      obtain ⟨htext, hfirst⟩ := (Text.cutArrow_eq_some_iff text cut.1 cut.2).1 hcut
      exact .inr ⟨cut.1, cut.2, hfirst, htext⟩

/-- Blanks in front of a piece and behind it do not matter. -/
theorem parseBranch_append_blanks
    (front back : Blanks)
    (piece : List Char) :
    parseBranch (front.text ++ piece ++ back.text) = parseBranch piece := by
  have htrim := Text.trim_between front.allBlank back.allBlank
  rcases not_hasArrow_or_cut piece with hnone | ⟨before, after, hfirst, rfl⟩
  · have hnone' : ¬ HasArrow (front.text ++ piece ++ back.text) := by
      rwa [Text.hasArrow_between_iff front.allBlank back.allBlank]
    rw [parseBranch_of_not_hasArrow hnone, parseBranch_of_not_hasArrow hnone', htrim]
  · have hfirst' : ¬ HasArrow (front.text ++ before) := by
      rwa [Text.hasArrow_append_left_iff
        (Text.not_mem_of_allBlank front.allBlank (by decide))]
    have hsplit : front.text ++ (before ++ '-' :: '>' :: after) ++ back.text =
        front.text ++ before ++ '-' :: '>' :: (after ++ back.text) := by
      simp
    have hwhole := htrim (before ++ '-' :: '>' :: after)
    rw [hsplit] at hwhole ⊢
    rw [parseBranch_of_cut hfirst', parseBranch_of_cut hfirst, hwhole,
      Text.trim_append_left front.allBlank, Text.trim_append_right back.allBlank]

/-- A letter between blanks has no arrow. -/
theorem not_hasArrow_of_trim_eq_label
    {text : List Char}
    {outcome : Bool}
    (h : Text.trim text = (label outcome).toList) :
    ¬ HasArrow text := by
  obtain ⟨-, before, after, hbefore, hafter, rfl⟩ := (Text.trim_eq_iff text _).1 h
  rw [Text.hasArrow_between_iff hbefore hafter]
  cases outcome <;> decide

/-- A written branch is read back. -/
theorem parseBranch_text
    (b : Branch) :
    parseBranch b.text = .ok (b.outcome, b.names) := by
  have hlabel : Text.trim (b.before.text ++ (label b.outcome).toList ++ b.behind.text) =
      (label b.outcome).toList := by
    rw [Text.trim_between b.before.allBlank b.behind.allBlank,
      Text.trim_of_bare (bare_label _)]
  have htarget : Text.trim (b.ahead.text ++ b.target.text ++ b.after.text) =
      b.target.text := by
    rw [Text.trim_between b.ahead.allBlank b.after.allBlank,
      Text.trim_of_bare b.target.bare]
  rw [Branch.text, parseBranch_of_cut (not_hasArrow_of_trim_eq_label hlabel), hlabel,
    htarget, if_neg b.target.ne_nil]
  cases b.outcome <;> simp [Branch.names]

/-- A piece that is read is a written branch. -/
theorem exists_branch_of_parseBranch
    {piece : List Char}
    (hcomma : ',' ∉ piece)
    {outcome : Bool}
    {target : String}
    (h : parseBranch piece = .ok (outcome, target)) :
    ∃ b : Branch, piece = b.text ∧ b.outcome = outcome ∧ b.names = target := by
  rcases not_hasArrow_or_cut piece with hnone | ⟨left, right, hfirst, rfl⟩
  · rw [parseBranch_of_not_hasArrow hnone] at h
    cases h
  · rw [parseBranch_of_cut hfirst] at h
    split_ifs at h with hlabel hempty
    obtain ⟨houtcome, rfl⟩ := Prod.mk.inj (Except.ok.inj h)
    have hletter : Text.trim left = (label outcome).toList := by
      rcases hlabel with hlabel | hlabel <;> simp [← houtcome, hlabel]
    obtain ⟨-, before, behind, hbefore, hbehind, hleft⟩ :=
      (Text.trim_eq_iff left _).1 hletter
    obtain ⟨ahead, after, hahead, hafter, hright⟩ := Text.exists_eq_append_trim right
    have hno : ',' ∉ Text.trim right := by
      intro hmem
      apply hcomma
      rw [hright]
      simp [hmem]
    refine ⟨⟨⟨before, hbefore⟩, outcome, ⟨behind, hbehind⟩, ⟨ahead, hahead⟩,
      ⟨Text.trim right, hempty, Text.bare_trim right, hno⟩, ⟨after, hafter⟩⟩, ?_, rfl, rfl⟩
    rw [Branch.text, ← hleft, ← hright]

/-- A piece that is not read has a fault, and that is reported. -/
theorem parseBranch_eq_error_iff
    (piece : List Char)
    (e : CodeError) :
    parseBranch piece = .error e ↔ BranchFault piece e := by
  constructor
  · intro h
    rcases not_hasArrow_or_cut piece with hnone | ⟨before, after, hfirst, rfl⟩
    · rw [parseBranch_of_not_hasArrow hnone] at h
      cases h
      exact .noArrow hnone
    · rw [parseBranch_of_cut hfirst] at h
      split_ifs at h with hlabel hempty
      · cases h
        have hblank := (Text.trim_eq_nil_iff after).1 hempty
        obtain ⟨outcome, hletter⟩ :
            ∃ outcome, Text.trim before = (label outcome).toList := by
          rcases hlabel with hlabel | hlabel
          · exact ⟨true, hlabel⟩
          · exact ⟨false, hlabel⟩
        exact .noTarget hletter hblank
      · cases h
        refine .noLabel hfirst fun outcome hletter => hlabel ?_
        cases outcome
        · exact .inr hletter
        · exact .inl hletter
  · intro h
    cases h with
    | noArrow h =>
        exact parseBranch_of_not_hasArrow h
    | @noLabel before after hfirst h =>
        have hlabel : ¬ (Text.trim before = ['T'] ∨ Text.trim before = ['F']) := by
          rintro (hletter | hletter)
          · exact h true hletter
          · exact h false hletter
        rw [parseBranch_of_cut hfirst, if_neg hlabel]
    | @noTarget before after outcome hlabel h =>
        have hempty := (Text.trim_eq_nil_iff after).2 h
        rw [parseBranch_of_cut (not_hasArrow_of_trim_eq_label hlabel), hlabel, hempty]
        cases outcome <;> simp

/-! ### All branches -/

theorem Branch.comma_not_mem
    (b : Branch) :
    ',' ∉ b.text := by
  have hblank : ∀ blanks : Blanks, ',' ∉ blanks.text :=
    fun blanks => Text.not_mem_of_allBlank blanks.allBlank (by decide)
  cases houtcome : b.outcome <;>
    simp [Branch.text, houtcome, hblank, b.target.no_comma]

theorem parseBranches_of_single
    {piece : List Char}
    (h : ',' ∉ piece) :
    parseBranches piece =
      parseBranch piece >>= fun read => .ok (.branch read.1 read.2) := by
  unfold parseBranches
  rw [Text.pieces_of_not_mem h]
  rfl

theorem parseBranches_of_pair
    {first second : List Char}
    (hfirst : ',' ∉ first)
    (hsecond : ',' ∉ second) :
    parseBranches (first ++ ',' :: second) =
      parseBranch first >>= fun read => parseBranch second >>= ofBranches read := by
  unfold parseBranches
  rw [Text.pieces_append hfirst hsecond]

theorem parseBranches_of_many
    {text : List Char}
    (h : 2 ≤ text.count ',') :
    parseBranches text = .error (.tooManyBranches (text.count ',' + 1)) := by
  have hlength := Text.length_pieces ',' text
  unfold parseBranches
  split
  · next hpieces =>
      rw [hpieces, List.length_singleton] at hlength
      omega
  · next hpieces =>
      rw [hpieces, List.length_cons, List.length_singleton] at hlength
      omega
  · rw [hlength]

/-- Blanks in front of a text and behind it do not matter. -/
theorem parseBranches_append_blanks
    (front back : Blanks)
    (text : List Char) :
    parseBranches (front.text ++ text ++ back.text) = parseBranches text := by
  have hfront : ',' ∉ front.text := Text.not_mem_of_allBlank front.allBlank (by decide)
  have hback : ',' ∉ back.text := Text.not_mem_of_allBlank back.allBlank (by decide)
  rcases Text.separators_cases ',' text with
    hsingle | ⟨first, second, hfirst, hsecond, rfl⟩ | hmany
  · have hsingle' : ',' ∉ front.text ++ text ++ back.text := by
      simp [hfront, hback, hsingle]
    rw [parseBranches_of_single hsingle, parseBranches_of_single hsingle',
      parseBranch_append_blanks]
  · have hfirst' : ',' ∉ front.text ++ first := by
      simp [hfront, hfirst]
    have hsecond' : ',' ∉ second ++ back.text := by
      simp [hback, hsecond]
    have hsplit : front.text ++ (first ++ ',' :: second) ++ back.text =
        front.text ++ first ++ ',' :: (second ++ back.text) := by
      simp
    have hnone : Text.AllBlank [] := by
      simp [Text.AllBlank]
    have hread : parseBranch (front.text ++ first) = parseBranch first := by
      simpa using parseBranch_append_blanks front ⟨[], hnone⟩ first
    have hread' : parseBranch (second ++ back.text) = parseBranch second := by
      simpa using parseBranch_append_blanks ⟨[], hnone⟩ back second
    rw [hsplit, parseBranches_of_pair hfirst' hsecond', hread, hread',
      parseBranches_of_pair hfirst hsecond]
  · have hcount : (front.text ++ text ++ back.text).count ',' = text.count ',' := by
      simp [List.count_append, List.count_eq_zero_of_not_mem hfront,
        List.count_eq_zero_of_not_mem hback]
    rw [parseBranches_of_many hmany, parseBranches_of_many (by omega), hcount]

theorem parseBranches_text
    (b : Branch) :
    parseBranches b.text = .ok (.branch b.outcome b.names) := by
  rw [parseBranches_of_single b.comma_not_mem, parseBranch_text]
  rfl

theorem parseBranches_text_comma_text
    (first second : Branch) :
    parseBranches (first.text ++ ',' :: second.text) =
      ofBranches (first.outcome, first.names) (second.outcome, second.names) := by
  rw [parseBranches_of_pair first.comma_not_mem second.comma_not_mem, parseBranch_text,
    parseBranch_text]
  rfl

/-- A form is a text in which its code is written. -/
theorem isWritten_form
    (form : Form) :
    form.code.IsWritten form.text := by
  cases form with
  | stop before after =>
      rw [Form.code, IsWritten, Form.text,
        Text.trim_between before.allBlank after.allBlank]
      decide
  | next blanks =>
      exact (Text.trim_eq_nil_iff blanks.text).2 blanks.allBlank
  | goto before token after =>
      have htrim : Text.trim (before.text ++ token.text ++ after.text) = token.text := by
        rw [Text.trim_between before.allBlank after.allBlank, Text.trim_of_bare token.bare]
      rw [Form.code, IsWritten, Form.text, htrim]
      exact ⟨rfl, token.ne_zero, token.ne_nil, token.no_arrow⟩
  | branch written =>
      exact ⟨written, rfl, rfl, rfl⟩
  | both first second differ =>
      rw [Form.code, Form.text]
      split_ifs with htrue
      · rw [htrue] at differ
        exact ⟨first, second, htrue, rfl, by simpa using differ.symm, rfl, .inl rfl⟩
      · have hfalse := eq_false_of_ne_true htrue
        rw [hfalse] at differ
        exact ⟨second, first, by simpa using differ.symm, rfl, hfalse, rfl, .inr rfl⟩

theorem parseBranches_of_fault
    {text : List Char}
    {e : CodeError}
    (h : Fault text e) :
    parseBranches text = .error e := by
  cases h with
  | tooMany h =>
      exact parseBranches_of_many h
  | single hpiece h =>
      rw [parseBranches_of_single hpiece, (parseBranch_eq_error_iff _ _).2 h]
      rfl
  | first hfirst hsecond h =>
      rw [parseBranches_of_pair hfirst hsecond, (parseBranch_eq_error_iff _ _).2 h]
      rfl
  | second b hsecond h =>
      rw [parseBranches_of_pair b.comma_not_mem hsecond, parseBranch_text,
        (parseBranch_eq_error_iff _ _).2 h]
      rfl
  | repeated b b' h =>
      rw [parseBranches_text_comma_text]
      exact if_pos h

/-- A piece is a written branch or has a fault. -/
theorem branch_or_fault
    {piece : List Char}
    (hcomma : ',' ∉ piece) :
    (∃ b : Branch, piece = b.text) ∨ ∃ e, BranchFault piece e := by
  cases hread : parseBranch piece with
  | error e =>
      exact .inr ⟨e, (parseBranch_eq_error_iff piece e).1 hread⟩
  | ok read =>
      obtain ⟨b, hb, -⟩ := exists_branch_of_parseBranch hcomma hread
      exact .inl ⟨b, hb⟩

/-- Branches are written and read, or they have a fault. -/
theorem isWritten_or_fault
    (text : List Char) :
    (∃ code : Code, code.IsWritten text ∧ parseBranches text = .ok code) ∨
    ∃ e, Fault text e := by
  rcases Text.separators_cases ',' text with
    hsingle | ⟨first, second, hfirst, hsecond, rfl⟩ | hmany
  · rcases branch_or_fault hsingle with ⟨b, rfl⟩ | ⟨e, he⟩
    · exact .inl ⟨_, isWritten_form (.branch b), parseBranches_text b⟩
    · exact .inr ⟨e, .single hsingle he⟩
  · rcases branch_or_fault hfirst with ⟨b, rfl⟩ | ⟨e, he⟩
    · rcases branch_or_fault hsecond with ⟨b', rfl⟩ | ⟨e, he⟩
      · by_cases hsame : b.outcome = b'.outcome
        · exact .inr ⟨_, .repeated b b' hsame⟩
        · refine .inl ⟨_, isWritten_form (.both b b' hsame), ?_⟩
          rw [parseBranches_text_comma_text, ofBranches, if_neg hsame, Form.code]
          split_ifs <;> rfl
      · exact .inr ⟨e, .second b hsecond he⟩
    · exact .inr ⟨e, .first hfirst hsecond he⟩
  · exact .inr ⟨_, .tooMany hmany⟩

theorem isWritten_of_parseBranches
    {text : List Char}
    {code : Code}
    (h : parseBranches text = .ok code) :
    code.IsWritten text := by
  rcases isWritten_or_fault text with ⟨code', hwritten, hread⟩ | ⟨e, he⟩
  · cases hread.symm.trans h
    exact hwritten
  · cases (parseBranches_of_fault he).symm.trans h

theorem fault_of_parseBranches
    {text : List Char}
    {e : CodeError}
    (h : parseBranches text = .error e) :
    Fault text e := by
  rcases isWritten_or_fault text with ⟨code, -, hread⟩ | ⟨e', he⟩
  · cases hread.symm.trans h
  · cases (parseBranches_of_fault he).symm.trans h
    exact he

/-! ### Whole codes -/

theorem parse_of_hasArrow
    {text : List Char}
    (h : HasArrow text) :
    parse (String.ofList text) = parseBranches text := by
  obtain ⟨before, after, hbefore, hafter, htext⟩ := Text.exists_eq_append_trim text
  have htrim := (Text.hasArrow_trim_iff text).2 h
  have hzero : Text.trim text ≠ ['0'] := by
    intro hzero
    rw [hzero] at htrim
    exact absurd htrim (by decide)
  have hempty : Text.trim text ≠ [] := by
    intro hempty
    rw [hempty] at htrim
    exact absurd htrim (by decide)
  have hcut : ¬ (Text.cutArrow (Text.trim text)).isNone = true := by
    rwa [Option.isNone_iff_eq_none, Text.cutArrow_eq_none_iff, not_not]
  have hbranches : parseBranches (Text.trim text) = parseBranches text := by
    conv_rhs => rw [htext]
    exact (parseBranches_append_blanks ⟨before, hbefore⟩ ⟨after, hafter⟩ _).symm
  simp only [parse, String.toList_ofList, if_neg hzero, if_neg hempty, if_neg hcut,
    hbranches]

theorem parse_of_not_hasArrow
    {text : List Char}
    (h : ¬ HasArrow text) :
    parse (String.ofList text) =
      if Text.trim text = ['0'] then .ok .stop
      else if Text.trim text = [] then .ok .next
      else .ok (.goto (String.ofList (Text.trim text))) := by
  have hcut : (Text.cutArrow (Text.trim text)).isNone = true := by
    rwa [Option.isNone_iff_eq_none, Text.cutArrow_eq_none_iff, Text.hasArrow_trim_iff]
  simp only [parse, String.toList_ofList, if_pos hcut]

theorem Branch.hasArrow
    (b : Branch) :
    HasArrow b.text :=
  ⟨b.before.text ++ (label b.outcome).toList ++ b.behind.text,
    b.ahead.text ++ b.target.text ++ b.after.text, by simp [Branch.text]⟩

/-- What is read is written there. -/
theorem isWritten_of_parse
    {text : List Char}
    {code : Code}
    (h : parse (String.ofList text) = .ok code) :
    code.IsWritten text := by
  by_cases harrow : HasArrow text
  · rw [parse_of_hasArrow harrow] at h
    exact isWritten_of_parseBranches h
  · rw [parse_of_not_hasArrow harrow] at h
    rw [← Text.hasArrow_trim_iff] at harrow
    split_ifs at h with hzero hempty <;> cases h
    · exact hzero
    · exact hempty
    · exact ⟨rfl, hzero, hempty, harrow⟩

/-- What is written is read. -/
theorem parse_of_isWritten
    {text : List Char}
    {code : Code}
    (h : code.IsWritten text) :
    parse (String.ofList text) = .ok code := by
  cases code with
  | stop =>
      have harrow : ¬ HasArrow text := by
        rw [← Text.hasArrow_trim_iff, h]
        decide
      rw [parse_of_not_hasArrow harrow]
      exact if_pos h
  | next =>
      have harrow : ¬ HasArrow text := by
        rw [← Text.hasArrow_trim_iff, h]
        decide
      rw [parse_of_not_hasArrow harrow, h]
      rfl
  | goto target =>
      obtain ⟨rfl, hzero, hempty, harrow⟩ := h
      rw [Text.hasArrow_trim_iff] at harrow
      rw [parse_of_not_hasArrow harrow, if_neg hzero, if_neg hempty]
  | branch outcome target =>
      obtain ⟨b, rfl, rfl, rfl⟩ := h
      rw [parse_of_hasArrow b.hasArrow, parseBranches_text]
  | both onTrue onFalse =>
      have harrow : ∀ first second : Branch, HasArrow (first.text ++ ',' :: second.text) :=
        fun first second => first.hasArrow.trans (List.prefix_append _ _).isInfix
      obtain ⟨t, f, htrue, rfl, hfalse, rfl, rfl | rfl⟩ := h <;>
        rw [parse_of_hasArrow (harrow _ _), parseBranches_text_comma_text, htrue,
          hfalse] <;>
        rfl

theorem parse_eq_error_iff
    (text : List Char)
    (e : CodeError) :
    parse (String.ofList text) = .error e ↔ HasArrow text ∧ Fault text e := by
  by_cases harrow : HasArrow text
  · rw [parse_of_hasArrow harrow]
    exact ⟨fun h => ⟨harrow, fault_of_parseBranches h⟩,
      fun h => parseBranches_of_fault h.2⟩
  · rw [parse_of_not_hasArrow harrow]
    split_ifs <;> simp [harrow]

/-- A text is read as a code exactly if that is written in it, it is rejected exactly for
its fault, and every way to write a code is read as that code. -/
theorem parse_inverts_writing :
    (∀ (text : String) (code : Code),
      parse text = .ok code ↔ code.IsWritten text.toList) ∧
    (∀ (text : String) (e : CodeError),
      parse text = .error e ↔ HasArrow text.toList ∧ Fault text.toList e) ∧
    ∀ form : Form, parse (String.ofList form.text) = .ok form.code := by
  refine ⟨fun text code => ⟨fun h => ?_, fun h => ?_⟩, fun text e => ?_, fun form => ?_⟩
  · exact isWritten_of_parse (by rwa [String.ofList_toList])
  · rw [← parse_of_isWritten h, String.ofList_toList]
  · rw [← parse_eq_error_iff, String.ofList_toList]
  · exact parse_of_isWritten (isWritten_form form)

/-- The first arrow of a branch counts, and the order of the branches does not. -/
example : parse " F->C , T -> A->B" = .ok (.both "A->B" "C") := by decide +kernel

end Code
end Flowchart

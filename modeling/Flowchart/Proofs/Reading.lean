import Flowchart.Proofs.Build
import Flowchart.Proofs.Cutting

/-!
# Reading codes where they stand

A code can be followed without compiling it.  A reading of the text at its
position says whether the state halts, runs an action or asks a decision, and
where it leads.  A branch is looked for by its label, and an outcome without a
branch leads to the next declared state.

The row that a code compiles to says the same as the reading of the code.
-/

namespace Flowchart

/-- What a code tells to do.  A target is none if there is no such state. -/
inductive Reading where
  | halt
  | act (target : Option StateId)
  | ask (target : Bool → Option StateId)

namespace Reading

/-- What a row tells to do. -/
def ofRow : Row → Reading
  | .terminal => halt
  | .action next => act (some next)
  | .decision onTrue onFalse => ask fun outcome =>
    some (if outcome then onTrue else onFalse)

/-- The target of a branch, if its label is that of the outcome. -/
def labelled? (outcome : Bool) (branch : List Char) : Option String :=
  (Text.cutArrow branch).bind fun (label, target) =>
    if String.ofList (Text.trim label) = Code.label outcome then
      some (String.ofList (Text.trim target))
    else none

/-- Where a code with branches leads on an outcome. -/
def targetOn (names : List String) (position : Nat) (code : List Char)
    (outcome : Bool) : Option StateId :=
  match (Text.pieces ',' code).findSome? (labelled? outcome) with
  | some target => position? names target
  | none => some (position + 1)

/-- Reads the code of the state at a position among the named states. -/
def read (names : List String) (position : Nat) (text : String) : Reading :=
  let code := Text.trim text.toList
  if code = ['0'] then halt
  else if code = [] then
    if position + 1 = names.length then halt else act (some (position + 1))
  else if ['-', '>'] <:+: code then ask (targetOn names position code)
  else act (position? names (String.ofList code))

/-! ### Readings and rows -/

/-- A branch that was read leads to its target on its outcome only. -/
theorem labelled?_of_parseBranch
    {branch : List Char}
    {label : Bool}
    {target : String}
    (h : Code.parseBranch branch = .ok (label, target))
    (outcome : Bool) :
    labelled? outcome branch = if outcome = label then some target else none := by
  unfold Code.parseBranch at h
  unfold labelled?
  cases hcut : Text.cutArrow branch with
  | none =>
      simp [hcut] at h
  | some cut =>
      obtain ⟨before, after⟩ := cut
      simp only [hcut] at h
      split_ifs at h with hlabel hempty
      obtain ⟨rfl, rfl⟩ := Prod.mk.inj (Except.ok.inj h)
      rcases hlabel with hlabel | hlabel <;>
        cases outcome <;>
        simp [hlabel, Code.label]

theorem targetOn_of_single
    {names : List String}
    {position : Nat}
    {code branch : List Char}
    {label : Bool}
    {target : String}
    (hpieces : Text.pieces ',' code = [branch])
    (hbranch : Code.parseBranch branch = .ok (label, target))
    (outcome : Bool) :
    targetOn names position code outcome =
      if outcome = label then position? names target else some (position + 1) := by
  unfold targetOn
  rw [hpieces]
  by_cases houtcome : outcome = label <;>
    simp [labelled?_of_parseBranch hbranch, houtcome]

theorem targetOn_of_pair
    {names : List String}
    {position : Nat}
    {code first second : List Char}
    {label other : Bool}
    {target target' : String}
    (hpieces : Text.pieces ',' code = [first, second])
    (hfirst : Code.parseBranch first = .ok (label, target))
    (hsecond : Code.parseBranch second = .ok (other, target'))
    (hne : label ≠ other)
    (outcome : Bool) :
    targetOn names position code outcome =
      position? names (if outcome = label then target else target') := by
  unfold targetOn
  rw [hpieces]
  by_cases houtcome : outcome = label
  · simp [labelled?_of_parseBranch hfirst, houtcome]
  · have hother : outcome = other := by
      cases outcome <;> cases label <;> cases other <;> simp_all
    simp [labelled?_of_parseBranch hfirst, labelled?_of_parseBranch hsecond,
      hother, hne.symm]

/-- A code that asks leads where a decision leads, if it does so on each outcome. -/
theorem ask_eq_ofRow
    {target : Bool → Option StateId}
    {onTrue onFalse : StateId}
    (h : ∀ outcome, target outcome = some (if outcome then onTrue else onFalse)) :
    ask target = ofRow (.decision onTrue onFalse) :=
  congrArg ask (funext h)

/-- The branches of a code lead where its row leads. -/
theorem ask_of_parseBranches
    {names : List String}
    {position : Nat}
    {text : List Char}
    {code : Code}
    {row : Row}
    (hparse : Code.parseBranches text = .ok code)
    (hrow : code.row? (position? names) position names.length = some row) :
    ask (targetOn names position text) = ofRow row := by
  unfold Code.parseBranches at hparse
  split at hparse
  · next branch hpieces =>
      obtain ⟨⟨label, target⟩, hbranch, hparse⟩ := Blueprint.bind_eq_ok_iff.1 hparse
      cases Except.ok.inj hparse
      obtain ⟨id, hid, hrest⟩ := Option.bind_eq_some_iff.1 hrow
      obtain ⟨other, hother, rfl⟩ := Option.map_eq_some_iff.1 hrest
      obtain ⟨rfl, -⟩ := Code.successor?_eq_some_iff.1 hother
      have htarget : ∀ outcome, targetOn names position text outcome =
          if outcome = label then some id else some (position + 1) := by
        intro outcome
        rw [targetOn_of_single hpieces hbranch, hid]
      cases label <;>
        · refine ask_eq_ofRow fun outcome => ?_
          rw [htarget]
          cases outcome <;> rfl
  · next first second hpieces =>
      obtain ⟨⟨label, target⟩, hfirst, hparse⟩ := Blueprint.bind_eq_ok_iff.1 hparse
      obtain ⟨⟨other, target'⟩, hsecond, hparse⟩ := Blueprint.bind_eq_ok_iff.1 hparse
      simp only [Code.ofBranches] at hparse
      split_ifs at hparse with hlabel htrue
      all_goals
        cases Except.ok.inj hparse
        obtain ⟨id, hid, hrest⟩ := Option.bind_eq_some_iff.1 hrow
        obtain ⟨id', hid', rfl⟩ := Option.map_eq_some_iff.1 hrest
        refine ask_eq_ofRow fun outcome => ?_
        rw [targetOn_of_pair hpieces hfirst hsecond hlabel]
        cases outcome <;> simp [htrue, hid, hid']
  · cases hparse

/-- A code that was read says the same as its row. -/
theorem read_of_parse
    {names : List String}
    {position : Nat}
    {text : String}
    {code : Code}
    {row : Row}
    (hlt : position < names.length)
    (hparse : Code.parse text = .ok code)
    (hrow : code.row? (position? names) position names.length = some row) :
    read names position text = ofRow row := by
  simp only [Code.parse, Option.isNone_iff_eq_none, Text.cutArrow_eq_none_iff,
    Text.HasArrow] at hparse
  unfold read
  by_cases hstop : Text.trim text.toList = ['0']
  · simp only [if_pos hstop] at hparse ⊢
    cases Except.ok.inj hparse
    cases Option.some.inj hrow
    rfl
  by_cases hnext : Text.trim text.toList = []
  · simp only [if_neg hstop, if_pos hnext] at hparse ⊢
    cases Except.ok.inj hparse
    cases Option.some.inj hrow
    unfold Code.successor?
    by_cases hlast : position + 1 = names.length
    · simp [hlast, ofRow]
    · have hsucc : position + 1 < names.length := by
        omega
      simp [hlast, hsucc, ofRow]
  by_cases harrow : ['-', '>'] <:+: Text.trim text.toList
  · simp only [if_neg hstop, if_neg hnext, if_pos harrow, not_not.2 harrow,
      if_false] at hparse ⊢
    exact ask_of_parseBranches hparse hrow
  · simp only [if_neg hstop, if_neg hnext, if_neg harrow, if_pos harrow] at hparse ⊢
    cases Except.ok.inj hparse
    obtain ⟨id, hid, rfl⟩ := Option.map_eq_some_iff.1 hrow
    rw [hid]
    rfl

/-- The reading of a code says the same as the row that the code compiles to. -/
theorem read_eq_ofRow
    {ω D : Type}
    {b : Blueprint ω D}
    {position : Nat}
    {d : Declaration}
    {row : Row}
    (hd : b.declarations[position]? = some d)
    (hrow : b.rowAt? position d = some row) :
    read b.names position d.code = ofRow row := by
  have hcount : b.names.length = b.declarations.length := by
    simp [Blueprint.names]
  have hlt : position < b.names.length := by
    rw [hcount]
    exact (List.getElem?_eq_some_iff.1 hd).1
  unfold Blueprint.rowAt? at hrow
  cases hparse : Code.parse d.code with
  | error reason =>
      simp [hparse] at hrow
  | ok code =>
      simp only [hparse, ← hcount] at hrow
      exact read_of_parse hlt hparse hrow

end Reading
end Flowchart

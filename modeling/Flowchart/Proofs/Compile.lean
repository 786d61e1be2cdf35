import Flowchart.Code.Compile
import Flowchart.Proofs.Directory

/-!
# What codes compile to

A code compiles at its place exactly if it can be read, the names in it are
addressed and the declared state after it exists where the code needs it.  This
module states the row of a compiled code without the errors of the compiler, and
reads off which codes compile and of what kind their states are.
-/

namespace Flowchart
namespace Code

/-- The names in a code. -/
def tokens : Code → List String
  | stop => []
  | next => []
  | goto target => [target]
  | branch _ target => [target]
  | both onTrue onFalse => [onTrue, onFalse]

/-- Whether a code leaves one outcome to the next declared state. -/
def NeedsSuccessor : Code → Prop
  | branch _ _ => True
  | _ => False

/-- The kind of a state with this code among `count` declared states. -/
def kindAt (position count : Nat) : Code → Kind
  | stop => .terminal
  | next => if position + 1 < count then .action else .terminal
  | goto _ => .action
  | branch _ _ => .decision
  | both _ _ => .decision

/-- The row of a code, if there is one, for a way to find states. -/
def row? (find : String → Option StateId) (position count : Nat) : Code → Option Row
  | stop => some .terminal
  | next => some ((successor? position count).elim .terminal .action)
  | goto target => (find target).map .action
  | branch outcome target =>
      (find target).bind fun id =>
        (successor? position count).map fun other =>
          if outcome then .decision id other else .decision other id
  | both onTrue onFalse =>
      (find onTrue).bind fun first =>
        (find onFalse).map fun second => .decision first second

/-- The compiler succeeds exactly if the text is a code that has a row. -/
theorem compile_eq_ok_iff
    (directory : Directory)
    (count position : Nat)
    (state text : String)
    (row : Row) :
    compile directory count position state text = .ok row ↔
      ∃ code, parse text = .ok code ∧
        code.row? directory.resolve? position count = some row := by
  unfold compile
  cases hparse : parse text with
  | error reason =>
      simp
  | ok code =>
      cases code with
      | stop =>
          simp [row?]
      | next =>
          cases hnext : successor? position count <;> simp [row?, hnext]
      | goto target =>
          cases hfind : directory.resolve? target <;>
            simp [row?, hfind, bind, Except.bind, pure, Except.pure]
      | branch outcome target =>
          cases hfind : directory.resolve? target <;>
            cases hnext : successor? position count <;>
            simp [row?, hfind, hnext, bind, Except.bind, pure, Except.pure]
      | both onTrue onFalse =>
          cases hfirst : directory.resolve? onTrue <;>
            cases hsecond : directory.resolve? onFalse <;>
            simp [row?, hfirst, hsecond, bind, Except.bind, pure, Except.pure]

theorem successor?_eq_some_iff
    {position count : Nat}
    {id : StateId} :
    successor? position count = some id ↔
      id = position + 1 ∧ position + 1 < count := by
  unfold successor?
  split_ifs with hlt <;> simp [hlt, eq_comm]

/-- A code has a row exactly if its names are found and the next declared state
is there where it is needed. -/
theorem exists_row?_iff
    (find : String → Option StateId)
    (position count : Nat)
    (code : Code) :
    (∃ row, code.row? find position count = some row) ↔
      (∀ token ∈ code.tokens, ∃ id, find token = some id) ∧
      (code.NeedsSuccessor → position + 1 < count) := by
  cases code with
  | stop =>
      simp [row?, tokens, NeedsSuccessor]
  | next =>
      simp [row?, tokens, NeedsSuccessor]
  | goto target =>
      simp [row?, tokens, NeedsSuccessor]
  | branch outcome target =>
      cases hfind : find target <;>
        simp [row?, tokens, NeedsSuccessor, hfind, successor?]
  | both onTrue onFalse =>
      cases hfirst : find onTrue <;>
        cases hsecond : find onFalse <;>
        simp [row?, tokens, NeedsSuccessor, hfirst, hsecond]

/-- The kind of a row is that of its code. -/
theorem kind_of_row?
    {find : String → Option StateId}
    {position count : Nat}
    {code : Code}
    {row : Row}
    (hrow : code.row? find position count = some row) :
    row.kind = code.kindAt position count := by
  cases code with
  | stop =>
      simp [row?] at hrow
      subst row
      rfl
  | next =>
      by_cases hlt : position + 1 < count <;>
        · simp [row?, successor?, hlt] at hrow
          subst row
          simp [Row.kind, kindAt, hlt]
  | goto target =>
      obtain ⟨id, -, rfl⟩ := Option.map_eq_some_iff.1 hrow
      rfl
  | branch outcome target =>
      obtain ⟨id, -, hrest⟩ := Option.bind_eq_some_iff.1 hrow
      obtain ⟨other, -, rfl⟩ := Option.map_eq_some_iff.1 hrest
      cases outcome <;> rfl
  | both onTrue onFalse =>
      obtain ⟨first, -, hrest⟩ := Option.bind_eq_some_iff.1 hrow
      obtain ⟨second, -, rfl⟩ := Option.map_eq_some_iff.1 hrest
      rfl

/-- The targets of a row are states, if only states are found. -/
theorem targets_of_row?_lt
    {find : String → Option StateId}
    {position count : Nat}
    (hfind : ∀ token id, find token = some id → id < count)
    {code : Code}
    {row : Row}
    (hrow : code.row? find position count = some row) :
    ∀ target ∈ row.targets, target < count := by
  cases code with
  | stop =>
      simp [row?] at hrow
      subst row
      simp [Row.targets]
  | next =>
      by_cases hlt : position + 1 < count <;>
        · simp [row?, successor?, hlt] at hrow
          subst row
          simp [Row.targets, hlt]
  | goto target =>
      obtain ⟨id, hid, rfl⟩ := Option.map_eq_some_iff.1 hrow
      simpa [Row.targets] using hfind _ _ hid
  | branch outcome target =>
      obtain ⟨id, hid, hrest⟩ := Option.bind_eq_some_iff.1 hrow
      obtain ⟨other, hother, rfl⟩ := Option.map_eq_some_iff.1 hrest
      have hlt := hfind _ _ hid
      obtain ⟨rfl, hnext⟩ := successor?_eq_some_iff.1 hother
      cases outcome <;> simp [Row.targets, hlt, hnext]
  | both onTrue onFalse =>
      obtain ⟨first, hfirst, hrest⟩ := Option.bind_eq_some_iff.1 hrow
      obtain ⟨second, hsecond, rfl⟩ := Option.map_eq_some_iff.1 hrest
      simp [Row.targets, hfind _ _ hfirst, hfind _ _ hsecond]

end Code
end Flowchart

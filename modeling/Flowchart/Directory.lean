import Flowchart.BuildError
import Flowchart.Text.Uppercase

/-!
# Acronyms and the directory of states

The acronym of a name is the row of its capital letters: `NextQueryInCache` has the
acronym `NQIC`.  A directory finds the position of a state by its acronym or by its full
name.  No two states of a directory have the same acronym.

## Main definitions

* `acronym` is the acronym of a name.
* `Directory.ofNames` builds the directory of a list of names, or says what is wrong
  with the first name that cannot be entered.
* `Directory.resolve?` finds a state.
-/

namespace Flowchart

def acronym (name : String) : String :=
  String.ofList (name.toList.filter Text.isUppercase)

/-- A state of a directory, at the position of its declaration. -/
structure Entry where
  acronym : String
  name : String
  deriving DecidableEq, Repr

structure Directory where
  entries : List Entry
  deriving DecidableEq, Repr

namespace Directory

def empty : Directory :=
  ⟨[]⟩

/-- Enters one more name. -/
def insert (d : Directory) (name : String) : Except BuildError Directory :=
  let short := acronym name
  if short = "" then .error (.noAcronym name)
  else if d.entries.any fun e => e.name = name then .error (.duplicateState name)
  else
    match d.entries.find? fun e => e.acronym = short with
    | some earlier => .error (.acronymCollision short earlier.name name)
    | none => .ok ⟨d.entries ++ [⟨short, name⟩]⟩

def ofNames (names : List String) : Except BuildError Directory :=
  names.foldlM insert empty

def size (d : Directory) : Nat :=
  d.entries.length

/-- The state with a given acronym. -/
def lookup? (d : Directory) (token : String) : Option Nat :=
  d.entries.findIdx? fun e => e.acronym = token

/-- The state with a given acronym or, failing that, with a given name. -/
def resolve? (d : Directory) (token : String) : Option Nat :=
  (d.lookup? token).or (d.entries.findIdx? fun e => e.name = token)

/-- The acronym of the state at a position. -/
def acronym? (d : Directory) (position : Nat) : Option String :=
  d.entries[position]?.map Entry.acronym

end Directory
end Flowchart

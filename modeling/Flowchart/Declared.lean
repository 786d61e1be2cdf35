import Flowchart.Blueprint
import Flowchart.Json.Reader

/-!
# Declared sets of states

A type whose values are the states of a machine.  Its list of values is the order of
declaration.
-/

namespace Flowchart

/-- A type of states with their names and codes. -/
class Declared (σ : Type) where
  /-- Every state, in order of declaration. -/
  all : List σ
  name : σ → String
  code : σ → String

namespace Declared

def declarations (σ : Type) [Declared σ] : List Declaration :=
  (all : List σ).map fun s => ⟨name s, code s⟩

/-- Reads a state from its name in a JSON text. -/
def readJson? (σ : Type) [Declared σ] (text : String) : Option σ :=
  (Json.read? text).bind (Json.Value.choice? ((all : List σ).map fun s => (name s, s)))

/-- The place of a state in the order of declaration. -/
def position? {σ : Type} [Declared σ] [DecidableEq σ] (s : σ) : Option Nat :=
  (all : List σ).findIdx? (· = s)

end Declared
end Flowchart

import Flowchart.Blueprint.Build
import Flowchart.Pool

/-!
# A registry of machines

Machines that are built once under a key and then shared.  A blueprint that does not
build leaves the registry as it is.
-/

namespace Flowchart

structure Registry (ω D : Type) where
  /-- The machines in use and their keys. -/
  entries : List (String × Shared ω D) := []
  /-- The identity of the next machine. -/
  next : Nat := 0

namespace Registry

variable {ω D : Type}

def find? (r : Registry ω D) (key : String) : Option (Shared ω D) :=
  r.entries.lookup key

def contains (r : Registry ω D) (key : String) : Bool :=
  (r.find? key).isSome

/-- Gives a new machine an identity. -/
def share (r : Registry ω D) (machine : Machine ω D) : Registry ω D × Shared ω D :=
  ({ r with next := r.next + 1 }, ⟨r.next, machine⟩)

/-- The machine under a key, built from the blueprint if there is none yet. -/
def obtain (r : Registry ω D) (key : String) (blueprint : Blueprint ω D) :
    Registry ω D × Except BuildError (Shared ω D) :=
  match r.find? key with
  | some shared => (r, .ok shared)
  | none =>
    match blueprint.build with
    | .error e => (r, .error e)
    | .ok machine =>
      let (r, shared) := r.share machine
      ({ r with entries := (key, shared) :: r.entries }, .ok shared)

end Registry
end Flowchart

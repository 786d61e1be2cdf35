import Flowchart.Instance

/-!
# Pools of instances

A machine that is in use has an identity besides its description: two machines built
apart are different even if they are alike.  A pool keeps instances of one machine that
have halted, to hand them out again from the start.

## Main definitions

* `Pool.acquire` hands out an instance, a parked one if there is any.
* `Pool.release` takes back an instance of the machine of the pool that has halted.
-/

namespace Flowchart

/-- A machine in use, with its identity. -/
structure Shared (ω D : Type) where
  identity : Nat
  machine : Machine ω D

/-- An instance together with the machine that it runs on. -/
structure Owned (ω D : Type) where
  shared : Shared ω D
  live : Instance ω D

structure Pool (ω D : Type) where
  shared : Shared ω D
  /-- The surroundings and data of the instance with the given number, counted from 1. -/
  factory : Nat → ω × D
  /-- The instances to hand out again, the one parked last in front. -/
  parked : List (Owned ω D) := []
  /-- The number of instances that the pool has made. -/
  created : Nat := 0

namespace Pool

variable {ω D : Type}

def acquire (p : Pool ω D) : Pool ω D × Owned ω D :=
  match p.parked with
  | owned :: rest => ({ p with parked := rest }, owned)
  | [] =>
    let (surroundings, data) := p.factory (p.created + 1)
    ({ p with created := p.created + 1 },
      ⟨p.shared, p.shared.machine.newInstance surroundings data⟩)

/-- Whether the pool takes the instance back. -/
def accepts (p : Pool ω D) (owned : Owned ω D) : Bool :=
  owned.shared.machine.isComplete owned.live && owned.shared.identity == p.shared.identity

/-- Takes back an instance, whose data is reset and whose next run begins.  The result
tells the surroundings that the call leaves behind. -/
def release (p : Pool ω D) (owned : Owned ω D) (reset : ω → D → ω × D) :
    Pool ω D × ω × Except RunError Unit :=
  if p.accepts owned then
    let (surroundings, data) := reset owned.live.surroundings owned.live.data
    let live := owned.shared.machine.restart { owned.live with surroundings, data }
    ({ p with parked := { owned with live } :: p.parked }, surroundings, .ok ())
  else
    (p, owned.live.surroundings, .error (.notParked owned.shared.machine.name
      ((owned.shared.machine.nameOf? owned.live.current).getD "")))

end Pool
end Flowchart

import Std.Data.TreeMap
import Std.Data.TreeSet
import Flowchart.Handler

/-!
# Searching for long Collatz chains

The chain of a number goes to its half when it is even and to three times the number
plus one when it is odd, until it comes to 1.  The search finds the start up to a target
that has the longest chain.  It keeps the lengths of the chains known so far.  A number
whose successor has no known length waits on a stack while the successor is seen to
first.
-/

namespace Flowchart
namespace Collatz

/-- The number after `n` in a chain. -/
def next (n : Nat) : Nat :=
  if n % 2 = 0 then n / 2 else 3 * n + 1

/-- The chain from `n` down to 1, cut off after `bound` steps. -/
def chain : (bound : Nat) → (n : Nat) → List Nat
  | 0, n => [n]
  | bound + 1, n => if 1 < n then n :: chain bound (next n) else [n]

structure Search where
  target : Nat
  /-- The number of terms of each chain that is known. -/
  lengths : Std.TreeMap Nat Nat := {}
  /-- The numbers whose chains are still to be looked at. -/
  pending : Std.TreeSet Nat := {}
  /-- The numbers that wait for a length, the next one in front. -/
  queries : List Nat := []

namespace Search

/-- The number to see to next. -/
def top (s : Search) : Except Failure Nat :=
  match s.queries with
  | query :: _ => .ok query
  | [] => .error ⟨"query stack is empty"⟩

/-! ### What the states do -/

/-- Enters the length of the trivial chain, and all numbers up to a little above the
target. -/
def begin (s : Search) : Search :=
  { s with
    lengths := s.lengths.insert 1 1
    pending := (List.range' 2 (s.target + 98)).foldl .insert s.pending }

/-- Puts the least pending number on the stack. -/
def pushProbe (s : Search) : Except Failure Search :=
  match s.pending.min? with
  | some probe => .ok { s with queries := s.queries ++ [probe] }
  | none => .error ⟨"no numbers left to probe"⟩

def isSuccessorKnown (s : Search) : Except Failure Bool := do
  let query ← s.top
  return s.lengths.contains (next query)

/-- Enters the length of the chain of the top number, whose successor is known. -/
def enterLength (s : Search) : Except Failure Search := do
  let query ← s.top
  match s.lengths[next query]? with
  | some length =>
    return { s with
      lengths := s.lengths.insert query (length + 1)
      pending := s.pending.erase query }
  | none => .error ⟨"successor of " ++ toString query ++ " is not cached"⟩

/-- Puts the successor of the top number on the stack. -/
def pushSuccessor (s : Search) : Except Failure Search := do
  let query ← s.top
  return { s with queries := next query :: s.queries }

def pop (s : Search) : Search :=
  { s with queries := s.queries.tail }

def isStackEmpty (s : Search) : Bool :=
  s.queries.isEmpty

/-- Whether no number up to the target is pending. -/
def isTargetReached (s : Search) : Bool :=
  s.pending.min?.all (s.target < ·)

/-! ### Results -/

/-- Of a start with its length and the best so far, the one with the longer chain; in a
tie the best so far. -/
def better (best : Option (Nat × Nat)) (start : Nat × Nat) : Option (Nat × Nat) :=
  match best with
  | some (n, length) => if start.2 ≤ length then some (n, length) else some start
  | none => some start

/-- The start up to the target with the longest known chain, and its length.  The least
start wins ties. -/
def longest? (s : Search) : Option (Nat × Nat) :=
  (s.lengths.toList.filter fun entry => entry.1 ≤ s.target).foldl better none

/-- The number of sixty-four bits that a signed reading of the bits of `n` gives. -/
def signed (n : Nat) : Int :=
  Int.bmod n UInt64.size

def diagnostics (s : Search) : List String :=
  ["Cache Size: " ++ toString s.lengths.size,
   "Top Cache Value: " ++ toString ((s.lengths.maxKey?.map signed).getD (-1)),
   "Stack Size: " ++ toString s.queries.length,
   "Stack: [" ++ ", ".intercalate (s.queries.map toString) ++ "]"]

end Search
end Collatz
end Flowchart

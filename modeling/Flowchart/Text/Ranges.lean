/-!
# Tables of code points

A property of characters is kept as a short list of progressions of code points.
Alphabets that alternate capital and small letters need a stride of two, so a
progression carries its stride.
-/

namespace Flowchart
namespace Text

/-- The code points `first`, `first + stride`, … up to `last`. -/
structure Progression where
  first : Nat
  last : Nat
  stride : Nat
  deriving DecidableEq, Repr

namespace Progression

def contains (p : Progression) (n : Nat) : Bool :=
  p.first ≤ n && n ≤ p.last && (n - p.first) % p.stride == 0

end Progression

/-- Whether the closed ranges hold the code point of `c`. -/
def inRanges (ranges : List (Nat × Nat)) (c : Char) : Bool :=
  ranges.any fun r => r.1 ≤ c.toNat && c.toNat ≤ r.2

end Text
end Flowchart

/-!
# Reading decimal numerals of bounded size

A numeral is a row of the digits 0 to 9, and leading zeros are allowed.  The digits are
read from the left, so of two faults the one further left is reported.
-/

namespace Flowchart
namespace Text

/-- Why a text is no numeral. -/
inductive NumeralError where
  | empty
  | invalidDigit
  /-- The number is above the bound. -/
  | overflow
  deriving DecidableEq, Repr

/-- The value of a decimal digit. -/
def digit? (c : Char) : Option Nat :=
  if c.isDigit then some (c.toNat - '0'.toNat) else none

/-- Reads on with the digits that follow a number already read. -/
def readDigits (bound value : Nat) : List Char → Except NumeralError Nat
  | [] => .ok value
  | c :: rest =>
    match digit? c with
    | none => .error .invalidDigit
    | some d =>
      if value * 10 + d ≤ bound then readDigits bound (value * 10 + d) rest
      else .error .overflow

/-- Reads a number up to the bound, which a single plus sign may precede. -/
def readNumeral (bound : Nat) : List Char → Except NumeralError Nat
  | [] => .error .empty
  | ['+'] => .error .invalidDigit
  | '+' :: rest => readDigits bound 0 rest
  | text => readDigits bound 0 text

/-- The largest number of sixty-four bits. -/
def maxWord : Nat :=
  UInt64.size - 1

end Text
end Flowchart

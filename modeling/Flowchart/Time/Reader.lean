import Flowchart.Text.Blank
import Flowchart.Text.Numeral
import Flowchart.Time.Timestamp

/-!
# Reading points in time

The texts of RFC 3339 are read, and some that are looser.  Date and time may be
separated by a blank or a small letter, a number may have fewer digits than it is
written with, blanks may stand around the separators and at both ends, a year may have a
sign, and the zone may be given as `UTC` or with blanks or colons, or neither, before
its minutes.  Digits of the fraction beyond the ninth are dropped.

Each reader takes the text at its front and returns what it read with the rest of the
text.
-/

namespace Flowchart
namespace Timestamp

/-- The value of a row of digits. -/
def digitsValue (row : List Char) : Nat :=
  row.foldl (fun value c => value * 10 + (c.toNat - '0'.toNat)) 0

/-- Reads at least one digit and at most `most`. -/
def readDigits (most : Nat) (text : List Char) : Option (List Char × List Char) :=
  let row := (text.take most).takeWhile Char.isDigit
  if row.isEmpty then none else some (row, text.drop row.length)

/-- Reads a number of at most two digits, with blanks before it. -/
def readPair (text : List Char) : Option (Nat × List Char) :=
  (readDigits 2 (Text.trimStart text)).map fun (row, rest) => (digitsValue row, rest)

/-- Reads a year: up to four digits, or a sign and any number of them. -/
def readYear (text : List Char) : Option (Int × List Char) :=
  match Text.trimStart text with
  | '-' :: rest =>
    (readDigits rest.length rest).map fun (row, rest) => (-digitsValue row, rest)
  | '+' :: rest =>
    (readDigits rest.length rest).map fun (row, rest) => ((digitsValue row : Int), rest)
  | rest => (readDigits 4 rest).map fun (row, rest) => ((digitsValue row : Int), rest)

/-- Reads one given character, with blanks before it. -/
def readMark (mark : Char) (text : List Char) : Option (List Char) :=
  match Text.trimStart text with
  | c :: rest => if c = mark then some rest else none
  | [] => none

/-- Reads the separator between date and time. -/
def readSeparator : List Char → Option (List Char)
  | c :: rest => if c = 'T' ∨ c = 't' ∨ c = ' ' then some rest else none
  | [] => none

/-- Reads a fraction of a second, in nanoseconds.  Without a point there is none. -/
def readFraction : List Char → Option (Nat × List Char)
  | '.' :: text =>
    (readDigits 9 text).map fun (row, rest) =>
      (digitsValue row * Nat.pow 10 (9 - row.length), rest.dropWhile Char.isDigit)
  | text => some (0, text)

/-- Reads the hours and minutes of a zone, in minutes. -/
def readZoneTime : List Char → Option (Nat × List Char)
  | h₁ :: h₂ :: text => do
    let h₁ ← Text.digit? h₁
    let h₂ ← Text.digit? h₂
    match text.dropWhile fun c => c = ':' || Text.isBlank c with
    | m₁ :: m₂ :: rest => do
      let m₁ ← Text.digit? m₁
      let m₂ ← Text.digit? m₂
      if m₁ < 6 then some ((h₁ * 10 + h₂) * 60 + (m₁ * 10 + m₂), rest) else none
    | _ => none
  | _ => none

/-- Reads a zone as the minutes that it is ahead of UTC. -/
def readZone : List Char → Option (Int × List Char)
  | 'Z' :: rest | 'z' :: rest => some (0, rest)
  | '+' :: text => (readZoneTime text).map fun (minutes, rest) => ((minutes : Int), rest)
  | '-' :: text | '\u2212' :: text =>
    (readZoneTime text).map fun (minutes, rest) => (-(minutes : Int), rest)
  | u :: t :: c :: rest =>
    if (u = 'U' ∨ u = 'u') ∧ (t = 'T' ∨ t = 't') ∧ (c = 'C' ∨ c = 'c') then some (0, rest)
    else none
  | _ => none

/-- The years that a timestamp is read with. -/
def isYearInRange (year : Int) : Bool :=
  -262143 ≤ year && year ≤ 262142

/-- The timestamp with the given numbers, if each is in its range. -/
def of? (year : Int) (month day hour minute second nanosecond : Nat) :
    Option Timestamp := do
  let date ← Date.of? year month day
  if h : (hour < 24 ∧ minute < 60) ∧ second ≤ 60 ∧ nanosecond < 1000000000 then
    some ⟨date, hour, minute, second, nanosecond, h.1.1, h.1.2, h.2.1, h.2.2⟩
  else none

/-- Reads a whole text as a timestamp. -/
def read? (text : String) : Option Timestamp := do
  let (year, rest) ← readYear text.toList
  let rest ← readMark '-' rest
  let (month, rest) ← readPair rest
  let rest ← readMark '-' rest
  let (day, rest) ← readPair rest
  let rest ← readSeparator rest
  let (hour, rest) ← readPair rest
  let rest ← readMark ':' rest
  let (minute, rest) ← readPair rest
  let rest ← readMark ':' rest
  let (second, rest) ← readPair rest
  let (nanosecond, rest) ← readFraction rest
  let (offset, rest) ← readZone (Text.trimStart rest)
  let t ← of? year month day hour minute second nanosecond
  -- A zone is less than a day away from UTC, and the year stays in range when the date
  -- moves.
  if (Text.trimStart rest).isEmpty ∧ offset.natAbs < 1440 ∧ isYearInRange t.date.year ∧
      isYearInRange (t.fromZone offset).date.year then
    some (t.fromZone offset)
  else none

end Timestamp
end Flowchart

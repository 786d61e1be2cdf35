import Flowchart.Time.Date

/-!
# Points in time

A timestamp is a date and a time of day in UTC, to the nanosecond.  A leap second has
the number 60, and any minute may have one.

A timestamp is written as RFC 3339 has it, `2024-05-06T07:08:09.120Z`.  The fraction has
3, 6 or 9 digits, as few as lose nothing, and is left out when it is zero.  A year that
does not fit four digits has a sign.
-/

namespace Flowchart

structure Timestamp where
  date : Date
  hour : Nat
  minute : Nat
  second : Nat
  nanosecond : Nat
  hour_lt : hour < 24
  minute_lt : minute < 60
  second_le : second ≤ 60
  nanosecond_lt : nanosecond < 1000000000
  deriving DecidableEq, Repr

namespace Timestamp

/-- The start of the year 1970. -/
def epoch : Timestamp :=
  ⟨⟨1970, 1, 1, by decide, by decide, by decide, by decide⟩, 0, 0, 0, 0,
    by decide, by decide, by decide, by decide⟩

/-- The decimal digits of a number, with zeros in front up to a width. -/
def padded (width n : Nat) : List Char :=
  (Nat.toDigits 10 n).leftpad width '0'

def writeYear (year : Int) : List Char :=
  if 0 ≤ year ∧ year ≤ 9999 then padded 4 year.toNat
  else (if year < 0 then '-' else '+') :: padded 4 year.natAbs

/-- The fraction of a second with the point before it. -/
def writeFraction (nanosecond : Nat) : List Char :=
  if nanosecond = 0 then []
  else if nanosecond % 1000000 = 0 then '.' :: padded 3 (nanosecond / 1000000)
  else if nanosecond % 1000 = 0 then '.' :: padded 6 (nanosecond / 1000)
  else '.' :: padded 9 nanosecond

def write (t : Timestamp) : String :=
  String.ofList <|
    writeYear t.date.year ++ ['-'] ++ padded 2 t.date.month ++
    ['-'] ++ padded 2 t.date.day ++ ['T'] ++ padded 2 t.hour ++
    [':'] ++ padded 2 t.minute ++ [':'] ++ padded 2 t.second ++
    writeFraction t.nanosecond ++ ['Z']

/-- The timestamp in UTC of a date and time in a zone that is `offset` minutes ahead of
UTC.  Zones are less than a day apart, so the date moves by one day at most. -/
def fromZone (offset : Int) (t : Timestamp) : Timestamp :=
  let minutes : Int := t.hour * 60 + t.minute - offset
  let date :=
    if minutes < 0 then t.date.previous
    else if minutes < 1440 then t.date
    else t.date.next
  let ofDay := (minutes % 1440).toNat
  { t with
    date
    hour := ofDay / 60
    minute := ofDay % 60
    hour_lt := by
      have : ofDay < 1440 := by omega
      omega
    minute_lt := by omega }

/-! ### Elapsed time -/

/-- The seconds of the day before the second of `t`.  A leap second counts with the
second before. -/
def secondOfDay (t : Timestamp) : Int :=
  t.hour * 3600 + t.minute * 60 + min t.second 59

/-- The nanoseconds since the second that `secondOfDay` counts to. -/
def fraction (t : Timestamp) : Int :=
  if t.second = 60 then t.nanosecond + 1000000000 else t.nanosecond

/-- The nanoseconds from one timestamp to another.  A leap second between the two times
of day is counted when one of the two is inside it. -/
def nanosecondsTo (first last : Timestamp) : Int :=
  let days := last.date.dayNumber - first.date.dayNumber
  let leap : Int :=
    if first.secondOfDay < last.secondOfDay ∧ first.second = 60 then 1
    else if last.secondOfDay < first.secondOfDay ∧ last.second = 60 then -1
    else 0
  let seconds := days * 86400 + (last.secondOfDay - first.secondOfDay) + leap
  seconds * 1000000000 + (last.fraction - first.fraction)

/-- The seconds and nanoseconds from one timestamp to a later one. -/
def elapsed? (first last : Timestamp) : Option (Nat × Nat) :=
  let total := nanosecondsTo first last
  if 0 ≤ total then some (total.toNat / 1000000000, total.toNat % 1000000000) else none

end Timestamp
end Flowchart

import OutboxRelay.Instant.Basic
import OutboxRelay.Instant.Calendar

/-!
# Written instants

The text of an instant: date and time of day in universal time, joined by `T` and closed by `Z`.
The fraction of the second takes the fewest of no, three, six and nine digits that lose nothing. A
leap second is written as second sixty. Years of the first ten millennia have four digits, all
others a sign and at least four.
-/

namespace OutboxRelay.Instant

/-- A number in decimal with leading zeros up to a width. -/
def padded (width n : Nat) : List Char :=
  let digits := Nat.toDigits 10 n
  List.replicate (width - digits.length) '0' ++ digits

/-- The year field. -/
def yearText (year : Int) : List Char :=
  if 0 ≤ year ∧ year ≤ 9999 then padded 4 year.toNat
  else if year < 0 then '-' :: padded 4 year.natAbs
  else '+' :: padded 4 year.natAbs

/-- The fraction of a second, with its point. -/
def fractionText (nanos : Nat) : List Char :=
  if nanos = 0 then []
  else if nanos % 1000000 = 0 then '.' :: padded 3 (nanos / 1000000)
  else if nanos % 1000 = 0 then '.' :: padded 6 (nanos / 1000)
  else '.' :: padded 9 nanos

/-- The time of day, given in seconds since midnight. -/
def timeText (secondOfDay nanos : Nat) : List Char :=
  let second := secondOfDay % 60 + nanos / nanosPerSecond
  padded 2 (secondOfDay / 3600) ++ ':' :: padded 2 (secondOfDay / 60 % 60) ++
    ':' :: padded 2 second ++ fractionText (nanos % nanosPerSecond)

/-- The instant as text. -/
def toText (instant : Instant) : String :=
  let date := CalendarDate.ofDays (instant.seconds / secondsPerDay)
  String.ofList (yearText date.year ++ '-' :: padded 2 date.month ++ '-' :: padded 2 date.day ++
    'T' :: timeText (instant.seconds % secondsPerDay).toNat instant.nanos ++ ['Z'])

instance : ToString Instant := ⟨toText⟩

end OutboxRelay.Instant

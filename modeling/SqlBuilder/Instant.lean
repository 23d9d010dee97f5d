import SqlBuilder.Text.Numeral

/-!
# Points in time

An instant is a count of seconds from the start of 1970 in universal time, and nanoseconds into
that second.  Nanoseconds from a thousand million up belong to a leap second, the sixty-first of
its minute.

* `CivilDate.ofDays` : the Gregorian date of a day count;
* `Instant.write` : the internet form of an instant, as in `1970-01-01T00:00:00.123+00:00`.
-/

namespace SqlBuilder

/-- A date of the Gregorian calendar, extended to all years; the year before 1 is 0. -/
structure CivilDate where
  year : Int
  month : Nat
  day : Nat
  deriving DecidableEq, Repr

/-- The date that lies `days` days after the first of January 1970.  Years are counted from March,
so that the leap day ends a year: an era has 400 years and 146097 days, and from March on the months
have lengths that repeat every five. -/
def CivilDate.ofDays (days : Int) : CivilDate :=
  let shifted := days + 719468
  let era := shifted.fdiv 146097
  let dayOfEra := (shifted.fmod 146097).toNat
  let yearOfEra := (dayOfEra - dayOfEra / 1460 + dayOfEra / 36524 - dayOfEra / 146096) / 365
  let dayOfYear := dayOfEra - (365 * yearOfEra + yearOfEra / 4 - yearOfEra / 100)
  let marchMonth := (5 * dayOfYear + 2) / 153
  let day := dayOfYear - (153 * marchMonth + 2) / 5 + 1
  let month := if marchMonth < 10 then marchMonth + 3 else marchMonth - 9
  let year := (yearOfEra : Int) + era * 400 + if month ≤ 2 then 1 else 0
  ⟨year, month, day⟩

/-- A point in time. -/
structure Instant where
  seconds : Int
  nanos : Nat
  deriving DecidableEq, Repr

namespace Instant

/-- A year takes four digits, and a sign as soon as it lies outside 0 to 9999. -/
def writeYear (year : Int) : List Char :=
  if 0 ≤ year ∧ year ≤ 9999 then Text.padded 4 year.toNat
  else (if year < 0 then '-' else '+') :: Text.padded 4 year.natAbs

/-- A fraction of a second takes as many groups of three digits as it needs. -/
def writeFraction (nanos : Nat) : List Char :=
  if nanos = 0 then []
  else if nanos % 1000000 = 0 then '.' :: Text.padded 3 (nanos / 1000000)
  else if nanos % 1000 = 0 then '.' :: Text.padded 6 (nanos / 1000)
  else '.' :: Text.padded 9 nanos

/-- The internet form of an instant in universal time. -/
def write (t : Instant) : List Char :=
  let date := CivilDate.ofDays (t.seconds.fdiv 86400)
  let second := (t.seconds.fmod 86400).toNat
  writeYear date.year ++ '-' :: (Text.padded 2 date.month ++ '-' :: (Text.padded 2 date.day ++
    'T' :: (Text.padded 2 (second / 3600) ++ ':' :: (Text.padded 2 (second / 60 % 60) ++
    ':' :: (Text.padded 2 (second % 60 + t.nanos / 1000000000) ++
    (writeFraction (t.nanos % 1000000000) ++ "+00:00".toList))))))

end Instant

end SqlBuilder

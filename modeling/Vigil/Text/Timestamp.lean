import Vigil.Decimal.Shortest

/-!
# Points in time

A point in time is given in nanoseconds since the beginning of 1970 and written as date and time of
day, with as many groups of three decimal places as are needed.
-/

namespace Vigil.Text

/-- A number with leading zeros up to a width. -/
def padded (width n : Nat) : List Char :=
  let ds := Decimal.digits n
  List.replicate (width - ds.length) '0' ++ ds

/-- Year, month and day of a day counted from the beginning of 1970.  Years are counted from March,
so that a leap day comes last; 400 years have 146097 days. -/
def civilDate (day : Nat) : Nat × Nat × Nat :=
  let z := day + 719468
  let era := z / 146097
  let dayOfEra := z % 146097
  let yearOfEra := (dayOfEra - dayOfEra / 1460 + dayOfEra / 36524 - dayOfEra / 146096) / 365
  let dayOfYear := dayOfEra - (365 * yearOfEra + yearOfEra / 4 - yearOfEra / 100)
  let shifted := (5 * dayOfYear + 2) / 153
  let month := if shifted < 10 then shifted + 3 else shifted - 9
  (yearOfEra + era * 400 + (if month ≤ 2 then 1 else 0), month,
    dayOfYear - (153 * shifted + 2) / 5 + 1)

/-- The decimal places of a second. -/
def fractionText (nanoseconds : Nat) : List Char :=
  if nanoseconds = 0 then []
  else if nanoseconds % 1000000 = 0 then '.' :: padded 3 (nanoseconds / 1000000)
  else if nanoseconds % 1000 = 0 then '.' :: padded 6 (nanoseconds / 1000)
  else '.' :: padded 9 nanoseconds

/-- A point in time as a text. -/
def timestamp (time : Nat) : String :=
  let seconds := time / 1000000000
  let (year, month, day) := civilDate (seconds / 86400)
  let s := seconds % 86400
  String.ofList <|
    padded 4 year ++ '-' :: padded 2 month ++ '-' :: padded 2 day ++
    'T' :: padded 2 (s / 3600) ++ ':' :: padded 2 (s / 60 % 60) ++ ':' :: padded 2 (s % 60) ++
    fractionText (time % 1000000000) ++ ['Z']

end Vigil.Text

/-!
# Scoreline.Time.Rfc3339

Moments in the text form of RFC 3339, in UTC to the second. Moments are seconds since
1970-01-01T00:00:00Z; dates are those of the Gregorian calendar, extended to all years.

The calendar is counted from March, so that a leap day ends its year, and in eras of 400 years,
which all have the same number of days.
-/

namespace Scoreline
namespace Time

/-- A day of the calendar. -/
structure Date where
  year : Int
  month : Nat
  day : Nat
  deriving DecidableEq, Repr

def daysOfEra : Nat := 146097

/-- The years that have passed before day `d` of an era whose years begin in March. -/
def yearOfEra (d : Nat) : Nat := (d - d / 1460 + d / 36524 - d / 146096) / 365

/-- The date `n` days after 1970-01-01. -/
def Date.ofDays (n : Int) : Date :=
  let shifted := n + 719468
  let era := shifted.fdiv daysOfEra
  let d := (shifted - era * daysOfEra).toNat
  let y := yearOfEra d
  let dayOfYear := d - (365 * y + y / 4 - y / 100)
  let m := (5 * dayOfYear + 2) / 153
  let month := if m < 10 then m + 3 else m - 9
  ⟨era * 400 + y + (if month ≤ 2 then 1 else 0), month, dayOfYear - (153 * m + 2) / 5 + 1⟩

/-- The digits of `n` with zeros in front up to `width`. -/
def padded (width n : Nat) : String :=
  let digits := Nat.toDigits 10 n
  String.ofList (List.replicate (width - digits.length) '0' ++ digits)

/-- Four digits for the years 0 to 9999; a sign and at least four digits for the others. -/
def yearText (y : Int) : String :=
  if 0 ≤ y ∧ y ≤ 9999 then padded 4 y.toNat
  else (if y < 0 then "-" else "+") ++ padded 4 y.natAbs

/-- The first and the last year that a moment can be written in. -/
def firstYear : Int := -262143

def lastYear : Int := 262142

/-- The text of the moment `t`, if its year can be written. -/
def rfc3339? (t : Int64) : Option String :=
  let days := t.toInt.fdiv 86400
  let seconds := (t.toInt - days * 86400).toNat
  let date := Date.ofDays days
  if firstYear ≤ date.year ∧ date.year ≤ lastYear then
    some (yearText date.year ++ "-" ++ padded 2 date.month ++ "-" ++ padded 2 date.day ++ "T" ++
      padded 2 (seconds / 3600) ++ ":" ++ padded 2 (seconds / 60 % 60) ++ ":" ++
      padded 2 (seconds % 60) ++ "+00:00")
  else none

end Time
end Scoreline

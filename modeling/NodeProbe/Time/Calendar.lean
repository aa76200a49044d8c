/-!
# The calendar

Days are counted from 1 January 1970, and dates are those of the Gregorian calendar, extended in
both directions. `Date.ofDay` and `Date.toDay` go from one to the other. Both count years from March
on, so that the leap day is the last day of its year: the months from March to the following January
then take 31, 30, 31, 30, 31 days over and over, which is what `monthStart` says.
-/

namespace NodeProbe.Time

/-- A day of the calendar; January is month 1. -/
structure Date where
  year : Int
  month : Nat
  day : Nat
  deriving DecidableEq, Repr

/-- Days in 400 years. -/
def eraDays : Nat := 146097

/-- Days from 1 March of year 0 to 1 January 1970. -/
def epochDay : Int := 719468

/-- Days from 1 March to the beginning of a month, where March is 0. -/
def monthStart (month : Nat) : Nat :=
  (153 * month + 2) / 5

/-- Days from the beginning of a 400-year era to 1 March of one of its years. -/
def yearStart (year : Nat) : Nat :=
  365 * year + year / 4 - year / 100

/-- The year of an era in which a day of the era lies. -/
def yearOfEra (day : Nat) : Nat :=
  (day - day / 1460 + day / 36524 - day / 146096) / 365

/-- The date of a day. -/
def Date.ofDay (n : Int) : Date :=
  let era := (n + epochDay) / eraDays
  let dayOfEra := ((n + epochDay) % eraDays).toNat
  let year := yearOfEra dayOfEra
  let dayOfYear := dayOfEra - yearStart year
  let month := (5 * dayOfYear + 2) / 153
  { year := era * 400 + year + if month < 10 then 0 else 1
    month := if month < 10 then month + 3 else month - 9
    day := dayOfYear - monthStart month + 1 }

/-- The day of a date. -/
def Date.toDay (d : Date) : Int :=
  let year := if 3 ≤ d.month then d.year else d.year - 1
  let month := if 3 ≤ d.month then d.month - 3 else d.month + 9
  let dayOfEra := yearStart (year % 400).toNat + monthStart month + (d.day - 1)
  year / 400 * eraDays + dayOfEra - epochDay

end NodeProbe.Time

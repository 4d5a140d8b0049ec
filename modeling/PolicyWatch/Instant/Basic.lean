/-!
# Instants

A point in time, written as date and time of day at Greenwich.  The second 60
is the leap second at the end of a minute.
-/

namespace PolicyWatch

/-- A point in time to the nanosecond. -/
structure Instant where
  year : Int
  month : Nat
  day : Nat
  hour : Nat
  minute : Nat
  second : Nat
  nanosecond : Nat
  deriving DecidableEq, Repr

namespace Instant

def leastYear : Int := -262143

/-- The last year that instants may lie in. -/
def greatestYear : Int := 262142

def isLeapYear (year : Int) : Bool :=
  year % 4 == 0 && (year % 100 != 0 || year % 400 == 0)

def daysInMonth (year : Int) (month : Nat) : Nat :=
  if month = 2 then (if isLeapYear year then 29 else 28)
  else if [4, 6, 9, 11].contains month then 30
  else 31

def isValid (instant : Instant) : Bool :=
  decide (leastYear ≤ instant.year) && decide (instant.year ≤ greatestYear) &&
    decide (1 ≤ instant.month) && decide (instant.month ≤ 12) &&
    decide (1 ≤ instant.day) && decide (instant.day ≤ daysInMonth instant.year instant.month) &&
    decide (instant.hour ≤ 23) && decide (instant.minute ≤ 59) &&
    decide (instant.second ≤ 60) && decide (instant.nanosecond ≤ 999999999)

def nextDay (instant : Instant) : Instant :=
  if instant.day < daysInMonth instant.year instant.month then
    { instant with day := instant.day + 1 }
  else if instant.month < 12 then { instant with month := instant.month + 1, day := 1 }
  else { instant with year := instant.year + 1, month := 1, day := 1 }

def previousDay (instant : Instant) : Instant :=
  if 1 < instant.day then { instant with day := instant.day - 1 }
  else if 1 < instant.month then
    { instant with
      month := instant.month - 1, day := daysInMonth instant.year (instant.month - 1) }
  else { instant with year := instant.year - 1, month := 12, day := 31 }

/-- The instant a number of minutes earlier, less than a day either way. -/
def minutesEarlier (instant : Instant) (minutes : Int) : Instant :=
  let total := (instant.hour * 60 + instant.minute : Nat) - minutes
  let (moved, total) :=
    if total < 0 then (instant.previousDay, total + 1440)
    else if 1440 ≤ total then (instant.nextDay, total - 1440)
    else (instant, total)
  { moved with hour := total.toNat / 60, minute := total.toNat % 60 }

def fields (instant : Instant) : List Int :=
  [instant.year, instant.month, instant.day, instant.hour, instant.minute, instant.second,
    instant.nanosecond]

def isBefore (left right : Instant) : Bool :=
  decide (left.fields < right.fields)

/-! ## Counting from the epoch -/

/-- The days of four hundred years, after which the calendar repeats itself. -/
def daysInCycle : Nat := 146097

/-- The days from the first of March of the year 0 to the first of January 1970. -/
def daysToEpoch : Nat := 719468

/-- The instant so many seconds and nanoseconds after the epoch.  Years are
counted from March on, so that a leap day comes last. -/
def ofEpoch (seconds nanosecond : Nat) : Instant :=
  let days := seconds / 86400 + daysToEpoch
  let ofCycle := days % daysInCycle
  let yearOfCycle := (ofCycle - ofCycle / 1460 + ofCycle / 36524 - ofCycle / 146096) / 365
  let ofYear := ofCycle - (365 * yearOfCycle + yearOfCycle / 4 - yearOfCycle / 100)
  let fromMarch := (5 * ofYear + 2) / 153
  let month := if fromMarch < 10 then fromMarch + 3 else fromMarch - 9
  let year := yearOfCycle + days / daysInCycle * 400 + (if month ≤ 2 then 1 else 0)
  let ofDay := seconds % 86400
  ⟨year, month, ofYear - (153 * fromMarch + 2) / 5 + 1, ofDay / 3600, ofDay / 60 % 60,
    ofDay % 60, nanosecond⟩

end Instant

end PolicyWatch

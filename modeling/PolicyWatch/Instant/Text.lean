import PolicyWatch.Instant.Basic
import PolicyWatch.Text.Basic

/-!
# Instants as text

A text holds a date, a time and an offset from Greenwich.  It is read with fewer digits than usual
in a field, and with blanks around the marks between them.  It is written at Greenwich, with as few
groups of three fraction digits as hold the fraction; years of more than four digits, and years
before the year zero, have a sign.
-/

namespace PolicyWatch.Instant

open PolicyWatch.Text

/-! ## Reading -/

def readDigits (width : Nat) (text : List Char) : Option (Nat × List Char) :=
  let digits := (text.take width).takeWhile Char.isDigit
  match digits with
  | [] => none
  | digits => (digitsValue? 10 digits).map (·, text.drop digits.length)

/-- Read a field of at most two digits after blanks. -/
def readField (text : List Char) : Option (Nat × List Char) :=
  readDigits 2 (trimStart text)

def readMark (mark : Char) (text : List Char) : Option (List Char) :=
  match trimStart text with
  | character :: rest => if character = mark then some rest else none
  | [] => none

/-- Read a year: four digits at most, or any number after a sign. -/
def readYear (text : List Char) : Option (Int × List Char) :=
  match trimStart text with
  | '-' :: rest => (readDigits rest.length rest).map fun (value, after) => (-(value : Int), after)
  | '+' :: rest => (readDigits rest.length rest).map fun (value, after) => ((value : Int), after)
  | text => (readDigits 4 text).map fun (value, after) => ((value : Int), after)

/-- Read a fraction of a second as nanoseconds; digits after the ninth do not
count. -/
def readFraction : List Char → Option (Nat × List Char)
  | '.' :: rest =>
      match readDigits 9 rest with
      | some (value, after) =>
          some (value * Nat.pow 10 (9 - (rest.length - after.length)), after.dropWhile Char.isDigit)
      | none => none
  | text => some (0, text)

/-- Read what parts the date from the time. -/
def readSeparator : List Char → Option (List Char)
  | character :: rest =>
      if character = 'T' ∨ character = 't' ∨ isBlank character then some rest else none
  | [] => none

def readTwoDigits : List Char → Option (Nat × List Char)
  | first :: second :: rest => (digitsValue? 10 [first, second]).map (·, rest)
  | _ => none

/-- Read hours and minutes of an offset after its sign. -/
def readHoursMinutes (text : List Char) : Option (Nat × List Char) :=
  match readTwoDigits text with
  | none => none
  | some (hours, rest) =>
      let rest := rest.dropWhile fun character => character == ':' || isBlank character
      match readTwoDigits rest with
      | some (minutes, after) => if minutes < 60 then some (hours * 60 + minutes, after) else none
      | none => none

/-- Read an offset from Greenwich in minutes, less than a day. -/
def readOffset (text : List Char) : Option (Int × List Char) :=
  if lowerBasic (text.take 3) = ['u', 't', 'c'] then some (0, text.drop 3)
  else
    let signed? : Option (Int × List Char) :=
      match text with
      | 'Z' :: rest => some (0, rest)
      | 'z' :: rest => some (0, rest)
      | '+' :: rest => (readHoursMinutes rest).map fun (minutes, after) => ((minutes : Int), after)
      | '-' :: rest => (readHoursMinutes rest).map fun (minutes, after) => (-(minutes : Int), after)
      | '−' :: rest => (readHoursMinutes rest).map fun (minutes, after) => (-(minutes : Int), after)
      | _ => none
    signed?.filter fun (minutes, _) => decide (minutes.natAbs < 1440)

def readDate (text : List Char) : Option (Int × Nat × Nat × List Char) := do
  let (year, rest) ← readYear text
  let (month, rest) ← readField (← readMark '-' rest)
  let (day, rest) ← readField (← readMark '-' rest)
  return (year, month, day, rest)

def readTime (text : List Char) : Option (Nat × Nat × Nat × Nat × List Char) := do
  let (hour, rest) ← readField text
  let (minute, rest) ← readField (← readMark ':' rest)
  let (second, rest) ← readField (← readMark ':' rest)
  let (nanosecond, rest) ← readFraction rest
  return (hour, minute, second, nanosecond, rest)

/-- Read an instant that fills the text, blanks aside. -/
def ofText? (text : List Char) : Option Instant := do
  let (year, month, day, rest) ← readDate text
  let rest ← readSeparator rest
  let (hour, minute, second, nanosecond, rest) ← readTime rest
  let (offset, rest) ← readOffset (trimStart rest)
  let there : Instant := ⟨year, month, day, hour, minute, second, nanosecond⟩
  let here := there.minutesEarlier offset
  if trimStart rest = [] && there.isValid && here.isValid then some here else none

/-! ## Writing -/

/-- A number with at least `width` digits. -/
def padded (width value : Nat) : List Char :=
  let digits := Nat.toDigits 10 value
  List.replicate (width - digits.length) '0' ++ digits

def writeYear (year : Int) : List Char :=
  if 0 ≤ year ∧ year ≤ 9999 then padded 4 year.toNat
  else (if year < 0 then '-' else '+') :: padded 4 year.natAbs

def writeFraction (nanosecond : Nat) : List Char :=
  if nanosecond = 0 then []
  else if nanosecond % 1000000 = 0 then '.' :: padded 3 (nanosecond / 1000000)
  else if nanosecond % 1000 = 0 then '.' :: padded 6 (nanosecond / 1000)
  else '.' :: padded 9 nanosecond

def toText (instant : Instant) : String :=
  String.ofList
    (writeYear instant.year ++ '-' :: padded 2 instant.month ++ '-' :: padded 2 instant.day ++
      'T' :: padded 2 instant.hour ++ ':' :: padded 2 instant.minute ++
      ':' :: padded 2 instant.second ++ writeFraction instant.nanosecond ++ ['Z'])

end PolicyWatch.Instant

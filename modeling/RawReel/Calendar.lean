import RawReel.Text.Pad

/-!
Dates of the Gregorian calendar, reckoned backwards and forwards without end, and the text of a
moment. Days are counted from 1 March of year 0, so that a leap day ends a year, in periods of 400
years, which are all of one length.
-/

namespace RawReel

structure Date where
  year : Int
  month : Nat
  day : Nat
  deriving DecidableEq

namespace Date

/-- Days of 400 years. -/
def daysPerEra : Nat := 146097

/-- Days from 1 March of year 0 to 1 January 1970. -/
def epochDay : Nat := 719468

/-- The date that many days after 1 January 1970. -/
def ofDays (days : Int) : Date :=
  let shifted := days + epochDay
  let era := shifted.fdiv daysPerEra
  let dayOfEra := (shifted.fmod daysPerEra).toNat
  let yearOfEra := (dayOfEra - dayOfEra / 1460 + dayOfEra / 36524 - dayOfEra / 146096) / 365
  let dayOfYear := dayOfEra - (365 * yearOfEra + yearOfEra / 4 - yearOfEra / 100)
  let marchMonth := (5 * dayOfYear + 2) / 153
  let month := if marchMonth < 10 then marchMonth + 3 else marchMonth - 9
  { year := yearOfEra + era * 400 + (if month ≤ 2 then 1 else 0)
    month
    day := dayOfYear - (153 * marchMonth + 2) / 5 + 1 }

/-- The text of a year: four digits, or a sign and at least four digits. -/
def yearText (year : Int) : String :=
  let digits := Text.paddedNat 4 year.natAbs
  if year < 0 then "-" ++ digits else if 9999 < year then "+" ++ digits else digits

def text (d : Date) : String :=
  yearText d.year ++ "-" ++ Text.paddedNat 2 d.month ++ "-" ++ Text.paddedNat 2 d.day

end Date

/-- A moment, in seconds since the start of 1970, in universal time. -/
abbrev Moment := Int

namespace Moment

/-- Years that a moment can be in. -/
def firstYear : Int := -262143
def lastYear : Int := 262142

def date (m : Moment) : Date := .ofDays (Int.fdiv m 86400)

def secondOfDay (m : Moment) : Nat := (Int.fmod m 86400).toNat

def inRange (m : Moment) : Bool := firstYear ≤ (date m).year && (date m).year ≤ lastYear

/-- The time of day, to the second. -/
def timeOfDay (m : Moment) : String :=
  let s := secondOfDay m
  Text.paddedNat 2 (s / 3600) ++ ":" ++ Text.paddedNat 2 (s / 60 % 60) ++ ":"
    ++ Text.paddedNat 2 (s % 60)

/-- Date and time of day, for reading. -/
def text (m : Moment) : String := (date m).text ++ " " ++ timeOfDay m ++ " UTC"

/-- Date and time of day as one word. -/
def word (m : Moment) : String := (date m).text ++ "T" ++ timeOfDay m ++ "Z"

end Moment

end RawReel

import DevicePower.Text.Numeral

/-!
# Instants as text

An instant is counted in nanoseconds from the start of 1970 and written as date and time of day in
universal time. Dates are those of the Gregorian calendar. Its years are taken to begin in March, so
that the day a leap year adds is the last of its year, and 400 years, which always have 146097 days,
are one round of it.
-/

namespace DevicePower.Text

/-- A date. -/
structure Date where
  year : Nat
  month : Nat
  day : Nat
deriving DecidableEq

/-- The days from the first of March of the year 0 to the first of January 1970. -/
def daysBefore1970 : Nat := 719468

/-- The days in 400 years. -/
def daysPerRound : Nat := 146097

/-- The year of a round that a day of the round is in. -/
def yearOfRound (day : Nat) : Nat := (day - day / 1460 + day / 36524 - day / 146096) / 365

/-- The date of a day, counted from the start of 1970. -/
def dateOfDay (day : Nat) : Date :=
  let shifted := day + daysBefore1970
  let inRound := shifted % daysPerRound
  let year := yearOfRound inRound
  let inYear := inRound - (365 * year + year / 4 - year / 100)
  let marchMonth := (5 * inYear + 2) / 153
  let month := if marchMonth < 10 then marchMonth + 3 else marchMonth - 9
  { year := year + shifted / daysPerRound * 400 + (if month ≤ 2 then 1 else 0)
    month := month
    day := inYear - (153 * marchMonth + 2) / 5 + 1 }

/-- The digits of a number, with zeros in front up to a width. -/
def padded (width n : Nat) : List Char :=
  List.replicate (width - (digits n).length) '0' ++ digits n

/-- Nanoseconds in a second. -/
def second : Nat := 1000000000

/-- The fraction of a second: nothing, or as many groups of three digits as it takes. -/
def fraction (nanoseconds : Nat) : List Char :=
  if nanoseconds = 0 then []
  else if nanoseconds % 1000000 = 0 then '.' :: padded 3 (nanoseconds / 1000000)
  else if nanoseconds % 1000 = 0 then '.' :: padded 6 (nanoseconds / 1000)
  else '.' :: padded 9 nanoseconds

/-- An instant as text, but for the mark of the zone. -/
def instantText (nanoseconds : Nat) : String :=
  let seconds := nanoseconds / second
  let date := dateOfDay (seconds / 86400)
  let ofDay := seconds % 86400
  String.ofList
    (padded 4 date.year ++ '-' :: padded 2 date.month ++ '-' :: padded 2 date.day
      ++ 'T' :: padded 2 (ofDay / 3600) ++ ':' :: padded 2 (ofDay / 60 % 60)
      ++ ':' :: padded 2 (ofDay % 60) ++ fraction (nanoseconds % second))

end DevicePower.Text

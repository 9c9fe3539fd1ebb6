/-!
# Instants

A point in time as the civil date and time of day in UTC, with nanoseconds.  A
sixtieth second is a leap second.
-/

namespace Whereabouts

namespace Calendar

def isLeapYear (year : Int) : Bool :=
  year % 4 == 0 && (year % 100 != 0 || year % 400 == 0)

def daysIn (year : Int) (month : Nat) : Nat :=
  if month = 2 then
    if isLeapYear year then 29 else 28
  else if month = 4 || month = 6 || month = 9 || month = 11 then 30
  else 31

/-- The years that have instants. -/
def isYear (year : Int) : Bool :=
  -262143 ≤ year && year ≤ 262142

def isDate (year : Int) (month day : Nat) : Bool :=
  isYear year && 1 ≤ month && month ≤ 12 && 1 ≤ day && day ≤ daysIn year month

/-- Whether a time of day exists. -/
def isTime (hour minute second nanos : Nat) : Bool :=
  hour < 24 && minute < 60 && second ≤ 60 && nanos < 1000000000

end Calendar

structure Instant where
  year : Int
  month : Nat
  day : Nat
  hour : Nat
  minute : Nat
  second : Nat
  nanos : Nat
  dated : Calendar.isDate year month day = true
  timed : Calendar.isTime hour minute second nanos = true
  deriving DecidableEq

namespace Instant

/-- The instant of a civil date and time in UTC, when both exist. -/
def ofCivil? (year : Int) (month day hour minute second nanos : Nat) : Option Instant :=
  if dated : Calendar.isDate year month day = true then
    if timed : Calendar.isTime hour minute second nanos = true then
      some { year, month, day, hour, minute, second, nanos, dated, timed }
    else
      none
  else
    none

def dayBefore (year : Int) (month day : Nat) : Int × Nat × Nat :=
  if 1 < day then (year, month, day - 1)
  else if 1 < month then (year, month - 1, Calendar.daysIn year (month - 1))
  else (year - 1, 12, 31)

def dayAfter (year : Int) (month day : Nat) : Int × Nat × Nat :=
  if day < Calendar.daysIn year month then (year, month, day + 1)
  else if month < 12 then (year, month + 1, 1)
  else (year + 1, 1, 1)

/-- The instant of a civil date and time that is `offset` minutes, less than a
day, ahead of UTC. -/
def ofLocal? (year : Int) (month day hour minute second nanos : Nat) (offset : Int) :
    Option Instant :=
  if Calendar.isDate year month day && Calendar.isTime hour minute second nanos then
    let minutes : Int := (hour : Int) * 60 + minute - offset
    let (y, m, d) :=
      if minutes < 0 then dayBefore year month day
      else if 1440 ≤ minutes then dayAfter year month day
      else (year, month, day)
    let ofDay := (minutes % 1440).toNat
    ofCivil? y m d (ofDay / 60) (ofDay % 60) second nanos
  else
    none

def epoch : Instant :=
  { year := 1970, month := 1, day := 1, hour := 0, minute := 0, second := 0, nanos := 0,
    dated := by decide, timed := by decide }

instance : Inhabited Instant := ⟨epoch⟩

end Instant
end Whereabouts

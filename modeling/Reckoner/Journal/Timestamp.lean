import Reckoner.Binary64.Arithmetic
import Reckoner.Fault

/-!
# Timestamps

A time is a number of seconds since the beginning of 1970, whole or not; whole ones are exact,
however many they are. It is written as date and time of day, with six places of seconds unless they
are all zero. The part behind the whole seconds is taken as microseconds, rounded to the nearest, a
half to the even one.

The calendar has the years 1 to 9999. A time is written only if the day before it is in the calendar
too. Seconds are counted in 64 bits, and years from 1900 on in 32.
-/

namespace Reckoner.Journal

set_option autoImplicit false

inductive Seconds
  | whole (count : Int)
  | number (value : Binary64)
deriving DecidableEq

/-- A time in whole seconds and the microseconds after them. -/
structure Instant where
  seconds : Int
  microseconds : Nat
deriving DecidableEq, Repr

namespace Instant

/-- The microseconds in a part of a second that is given in grains. -/
def microsecondsOfGrains (grains : Nat) : Nat :=
  match Binary64.ofGrains false grains 1 * Binary64.ofDecimal 1000000 0 with
  | .finite _ rank => Binary64.roundHalfEven (Binary64.grainsOfRank rank) Binary64.grainsPerOne
  | _ => 0

/-- The time that is so many microseconds after or before a second. -/
def ofSigned (negative : Bool) (seconds microseconds : Nat) : Instant :=
  let total : Int := seconds * 1000000 + microseconds
  let signed := if negative then -total else total
  ⟨signed / 1000000, (signed % 1000000).toNat⟩

def counted (instant : Instant) : Except Fault Instant :=
  if -Int.pow 2 63 ≤ instant.seconds ∧ instant.seconds < Int.pow 2 63 then .ok instant
  else .error .secondsUncountable

def ofSeconds : Seconds → Except Fault Instant
  | .whole count => counted ⟨count, 0⟩
  | .number (.finite negative rank) =>
      let grains := Binary64.grainsOfRank rank
      counted (ofSigned negative (grains / Binary64.grainsPerOne)
        (microsecondsOfGrains (grains % Binary64.grainsPerOne)))
  | .number _ => .error .secondsUncountable

end Instant

structure Date where
  year : Int
  month : Nat
  day : Nat
deriving DecidableEq, Repr

namespace Date

/-- The day so many days after the first of January 1970. Years are counted from March in spans of
400 years, so that the leap day is the last day of its year. -/
def ofDays (days : Int) : Date :=
  let shifted := days + 719468
  let span := shifted / 146097
  let dayOfSpan := (shifted % 146097).toNat
  let yearOfSpan :=
    (dayOfSpan - dayOfSpan / 1460 + dayOfSpan / 36524 - dayOfSpan / 146096) / 365
  let dayOfYear := dayOfSpan - (365 * yearOfSpan + yearOfSpan / 4 - yearOfSpan / 100)
  let monthFromMarch := (5 * dayOfYear + 2) / 153
  let day := dayOfYear - (153 * monthFromMarch + 2) / 5 + 1
  let month := if monthFromMarch < 10 then monthFromMarch + 3 else monthFromMarch - 9
  let year : Int := span * 400 + yearOfSpan
  ⟨if month ≤ 2 then year + 1 else year, month, day⟩

def text (date : Date) : Text :=
  Decimal.padded 4 date.year.toNat ++ '-' :: Decimal.padded 2 date.month
    ++ '-' :: Decimal.padded 2 date.day

end Date

namespace Instant

def date (instant : Instant) : Date :=
  Date.ofDays (instant.seconds / 86400)

def dayBefore (instant : Instant) : Instant :=
  { instant with seconds := instant.seconds - 86400 }

/-- The year of a time, if it can be counted and is in the calendar. -/
def calendarYear (instant : Instant) : Except Fault Int :=
  let year := instant.date.year
  if -Int.pow 2 31 ≤ year - 1900 ∧ year - 1900 < Int.pow 2 31 then
    if 1 ≤ year ∧ year ≤ 9999 then .ok year
    else .error (.yearOutOfRange (year.bmod (Nat.pow 2 32)))
  else .error .yearUncountable

def checked (instant : Instant) : Except Fault Instant := do
  let _ ← instant.calendarYear
  let _ ← instant.dayBefore.calendarYear
  return instant

def text (instant : Instant) : Text :=
  let time := (instant.seconds % 86400).toNat
  instant.date.text
    ++ 'T' :: Decimal.padded 2 (time / 3600)
    ++ ':' :: Decimal.padded 2 (time / 60 % 60)
    ++ ':' :: Decimal.padded 2 (time % 60)
    ++ (if instant.microseconds = 0 then [] else '.' :: Decimal.padded 6 instant.microseconds)

end Instant

end Reckoner.Journal

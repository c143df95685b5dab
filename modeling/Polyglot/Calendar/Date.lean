/-!
# Calendar dates

Dates of the Gregorian calendar extended to the years 1 to 9999. Day numbers count from
the first of January of the year 1, which has number 1 and is a Monday.
-/
namespace Polyglot

/-- A day of the calendar. -/
structure Date where
  year : Nat
  month : Nat
  day : Nat
  deriving DecidableEq, Repr, Inhabited

namespace Date

/-- Whether the year has a 29th of February. -/
def isLeap (y : Nat) : Bool := y % 4 == 0 && (y % 100 != 0 || y % 400 == 0)

def daysInMonth (y m : Nat) : Nat :=
  if m = 2 then (if isLeap y then 29 else 28)
  else if m = 4 ∨ m = 6 ∨ m = 9 ∨ m = 11 then 30
  else 31

/-- The days of the year before a month. -/
def daysBeforeMonth (y m : Nat) : Nat :=
  (List.range (m - 1)).foldl (fun days k => days + daysInMonth y (k + 1)) 0

/-- The days before a year. -/
def daysBeforeYear (y : Nat) : Nat :=
  let p := y - 1
  p * 365 + p / 4 - p / 100 + p / 400

/-- Whether year, month and day are in range. -/
def isValid (d : Date) : Bool :=
  1 ≤ d.year && d.year ≤ 9999 && 1 ≤ d.month && d.month ≤ 12 &&
    1 ≤ d.day && d.day ≤ daysInMonth d.year d.month

def number (d : Date) : Nat := daysBeforeYear d.year + daysBeforeMonth d.year d.month + d.day

/-- The number of the last day of the year 9999. -/
def lastNumber : Nat := 3652059

/-- The month and the day for a day of the year, counted from 1. -/
def monthAndDay (y dayOfYear : Nat) : Nat × Nat :=
  let rec go : Nat → Nat → Nat → Nat × Nat
    | 0, m, d => (m, d)
    | fuel + 1, m, d =>
        if d ≤ daysInMonth y m then (m, d) else go fuel (m + 1) (d - daysInMonth y m)
  go 11 1 dayOfYear

/-- The year that holds a day number. -/
def yearOf (n : Nat) : Nat :=
  -- An estimate that is never too late by more than one year nor too early.
  let guess := n / 366 + 1
  let rec go : Nat → Nat → Nat
    | 0, y => y
    | fuel + 1, y => if daysBeforeYear (y + 1) < n then go fuel (y + 1) else y
  go (n / 365 + 1) guess

def ofNumber (n : Nat) : Date :=
  let y := yearOf n
  let (m, d) := monthAndDay y (n - daysBeforeYear y)
  ⟨y, m, d⟩

/-- The day of the year, counted from 1. -/
def dayOfYear (d : Date) : Nat := daysBeforeMonth d.year d.month + d.day

/-- The day of the week, Monday being 0. -/
def weekday (d : Date) : Nat := (d.number + 6) % 7

/-- The number of the Monday that starts the first week of a year: the week with the
fourth of January. It may lie before day 1. -/
def weekOneStart (y : Nat) : Int :=
  let first := daysBeforeYear y + 1
  let wd := (first + 6) % 7
  let monday := Int.ofNat first - Int.ofNat wd
  if wd > 3 then monday + 7 else monday

/-- Whether a year has 53 weeks: it starts on a Thursday, or on a Wednesday and is a leap
year. -/
def hasLongWeeks (y : Nat) : Bool :=
  let wd := (daysBeforeYear y + 7) % 7
  wd == 3 || (wd == 2 && isLeap y)

/-- The day with a year, week and day of the week (Monday is 1), if there is one. -/
def ofWeek? (y week day : Nat) : Option Date :=
  if y < 1 ∨ 9999 < y then none
  else if !(1 ≤ week && (week ≤ 52 || (week == 53 && hasLongWeeks y))) then none
  else if day < 1 ∨ 7 < day then none
  else
    let n := weekOneStart y + Int.ofNat ((week - 1) * 7 + (day - 1))
    if n < 1 ∨ Int.ofNat lastNumber < n then none else some (ofNumber n.toNat)

end Date
end Polyglot

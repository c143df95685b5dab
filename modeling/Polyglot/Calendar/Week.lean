import Polyglot.Calendar.Date

/-!
# Weeks

Weeks of a year and of a month. Which day a week starts with, and how many days of its first
week a period has at least, differs between territories.
-/
namespace Polyglot

/-- How weeks are counted: the day they start with, Monday being 0, and the days that the first
week of a period has at least. -/
structure WeekRule where
  firstDay : Nat
  minDays : Nat
  deriving DecidableEq, Repr, Inhabited

namespace WeekRule

/-- Weeks from Monday on, the first one with any day of the period. -/
def common : WeekRule := ⟨0, 1⟩

/-- The week of a period with a day of it, which is such a day of the week. Days in front of the
first week are in week 0. -/
def weekOf (r : WeekRule) (dayOfPeriod weekday : Nat) : Nat :=
  let shift := Int.ofNat weekday - Int.ofNat r.firstDay - Int.ofNat dayOfPeriod + 1
  let lead := (Int.emod shift 7).toNat
  (dayOfPeriod + lead - 1) / 7 + (if r.minDays ≤ 7 - lead then 1 else 0)

def weekOfMonth (r : WeekRule) (d : Date) : Nat := r.weekOf d.day d.weekday

/-- The week of the year; days at its ends may belong to the last week of the year before or to
the first one of the next. There is none where that year is out of range. -/
def weekOfYear? (r : WeekRule) (d : Date) : Option Nat :=
  let week := r.weekOf d.dayOfYear d.weekday
  if week = 0 then
    if d.year ≤ 1 then none
    else
      let last : Date := ⟨d.year - 1, 12, 31⟩
      some (r.weekOf last.dayOfYear last.weekday)
  else if week ≤ 52 then some week
  else if 9999 ≤ d.year then none
  else
    let start := (Date.mk (d.year + 1) 1 1).weekday
    let reach := 32 - (start + 7 - r.firstDay) % 7
    some (if r.weekOf 1 start = 1 ∧ reach ≤ d.day then 1 else week)

def yearOf? (r : WeekRule) (d : Date) : Option Nat :=
  if d.month = 1 ∧ d.day < 7 then
    (r.weekOfYear? d).map fun week => if 52 ≤ week then d.year - 1 else d.year
  else if d.month = 12 ∧ 25 < d.day then
    (r.weekOfYear? d).map fun week => if week ≤ 2 then d.year + 1 else d.year
  else some d.year

/-- The place of a day in its week, counted from 1. -/
def dayOfWeek (r : WeekRule) (d : Date) : Nat := (7 - r.firstDay + d.weekday) % 7 + 1

end WeekRule
end Polyglot

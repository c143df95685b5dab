import Polyglot.Calendar.Date
import Polyglot.Number.Binary64

/-!
# Moments

A moment is a day with a time of day and, when it is not local, an offset from universal
time. Moments are also read from a count of seconds since the start of 1970.
-/
namespace Polyglot

/-- A time of day. -/
structure Clock where
  hour : Nat
  minute : Nat
  second : Nat
  micro : Nat
  deriving DecidableEq, Repr, Inhabited

namespace Clock

def midnight : Clock := ⟨0, 0, 0, 0⟩

/-- Whether every part is in range. -/
def isValid (c : Clock) : Bool :=
  c.hour < 24 && c.minute < 60 && c.second < 60 && c.micro < 1000000

end Clock

/-- A day and a time of day; the offset from universal time is in microseconds. -/
structure Moment where
  date : Date
  clock : Clock
  offset : Option Int
  deriving DecidableEq, Repr, Inhabited

/-- Why a count of seconds is no moment. -/
inductive EpochFault
  /-- the year is not one of 1 to 9999 -/
  | year (found : Int)
  /-- the year does not fit the range of calendar years of the platform -/
  | calendar
  /-- the count does not fit 64 bits -/
  | range
  /-- the count is not a number -/
  | notANumber
  deriving DecidableEq, Repr

def EpochFault.text? : EpochFault → Option String
  | year y => some s!"year {y} is out of range"
  | notANumber => some "Invalid value NaN (not a number)"
  | _ => none

namespace Moment

/-- The microseconds from the start of the calendar to a moment with an offset. -/
def instant? (m : Moment) : Option Int :=
  let seconds := m.date.number * 86400 + m.clock.hour * 3600 + m.clock.minute * 60 + m.clock.second
  m.offset.map fun z => Int.ofNat (seconds * 1000000 + m.clock.micro) - z

/-- The number of the first of January 1970. -/
def epochNumber : Nat := 719163

/-- The year of a day number that may lie before day 1, kept in the range of 32 bits. -/
def farYear (day : Int) : Int :=
  -- Years are counted from the first of March of the year 0 and in cycles of 400 years.
  let z := day + 305
  let cycle := Int.fdiv z 146097
  let inCycle := Int.fmod z 146097
  let year := (inCycle - inCycle / 1460 + inCycle / 36524 - inCycle / 146096) / 365
  let dayOfYear := inCycle - (365 * year + year / 4 - year / 100)
  Int.bmod (year + cycle * 400 + (if 306 ≤ dayOfYear then 1 else 0)) 4294967296

/-- The moment in universal time with whole seconds and microseconds since 1970. -/
def ofEpoch (seconds : Int) (micro : Nat) : Except EpochFault Moment :=
  if seconds < -9223372036854775808 ∨ 9223372036854775808 ≤ seconds then .error .range
  else if seconds < -67768040609740800 ∨ 67768036191676800 ≤ seconds then .error .calendar
  else
    let day := Int.ofNat epochNumber + Int.fdiv seconds 86400
    let rest := (Int.fmod seconds 86400).toNat
    if day < 1 ∨ Int.ofNat Date.lastNumber < day then .error (.year (farYear day))
    else
      .ok ⟨Date.ofNumber day.toNat, ⟨rest / 3600, rest / 60 % 60, rest % 60, micro⟩, some 0⟩

/-- The moment a number of seconds after the start of 1970, to the nearest microsecond. -/
def ofEpochSeconds (x : Binary64) : Except EpochFault Moment :=
  match x with
  | .nan => .error .notANumber
  | .infinity _ => .error .range
  | x =>
      let micros := Binary64.mul x.fraction (Binary64.ofRatio false 1000000 1)
      match x.truncate?, micros.nearestInt? with
      | some whole, some micro =>
          if 1000000 ≤ micro then ofEpoch (whole + 1) (micro - 1000000).toNat
          else if micro < 0 then ofEpoch (whole - 1) (micro + 1000000).toNat
          else ofEpoch whole micro.toNat
      | _, _ => .error .range

end Moment
end Polyglot

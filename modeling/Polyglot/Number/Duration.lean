import Polyglot.Number.Basic

/-!
# Durations

A duration is a whole number of microseconds. A number of seconds becomes the nearest
duration, a half going to the even microsecond.
-/
namespace Polyglot

/-- A span of time. -/
structure Duration where
  micros : Int
  deriving DecidableEq, Repr, Inhabited

/-- Why a number of seconds is no duration. -/
inductive DurationFault
  | notANumber
  | infinite
  /-- the duration is a thousand million days or longer -/
  | tooLong
  deriving DecidableEq, Repr

namespace Duration

/-- A duration of at most 999999999 days. -/
def check (micros : Int) : Except DurationFault Duration :=
  let days := Int.fdiv micros 86400000000
  if days < -999999999 ∨ 999999999 < days then .error .tooLong else .ok ⟨micros⟩

/-- The duration of a number of seconds. The whole seconds count exactly; only the fraction
is rounded. -/
def ofSeconds (x : Number) : Except DurationFault Duration :=
  match x with
  | .int n => check (n * 1000000)
  | .float .nan => .error .notANumber
  | .float (.infinity _) => .error .infinite
  | .float x =>
      let whole := x.truncate?.getD 0
      let rest := Binary64.mul x.fraction (Binary64.ofRatio false 1000000 1)
      check (whole * 1000000 + rest.nearestInt?.getD 0)

def seconds (d : Duration) : Binary64 := Binary64.ofRatio (d.micros < 0) d.micros.natAbs 1000000

end Duration
end Polyglot

import Polyglot.Number.Binary64

/-!
# Numbers

A number is an integer of any size or a binary64 number. Sums and products of two integers
are integers, all others are binary64 numbers. Comparisons are exact for both kinds.
-/
namespace Polyglot

/-- An integer or a binary64 number. -/
inductive Number
  | int (n : Int)
  | float (x : Binary64)
  deriving DecidableEq, Repr, Inhabited

namespace Number

/-- The binary64 number that is nearest; integers beyond the range become infinities. -/
def toBinary64 : Number → Binary64
  | int n => Binary64.ofRatio (n < 0) n.natAbs 1
  | float x => x

/-- The binary64 number that is nearest, unless the number is an integer beyond the range. -/
def toBinary64? : Number → Option Binary64
  | int n => Binary64.ofInt? n
  | float x => some x

/-- The sum. There is none of a binary64 number and an integer beyond the range. -/
def add? : Number → Number → Option Number
  | int a, int b => some (int (a + b))
  | a, b =>
      match a.toBinary64?, b.toBinary64? with
      | some x, some y => some (float (Binary64.add x y))
      | _, _ => none

/-- Where a number lies: an integer times a power of two, or at one end. -/
inductive Place
  | low
  | point (mantissa exponent : Int)
  | high
  deriving DecidableEq, Repr

/-- The place of a number; what is not a number has none. -/
def place? : Number → Option Place
  | int n => some (.point n 0)
  | float .nan => none
  | float (.infinity s) => some (if s then .low else .high)
  | float (.finite s m e) => some (.point (Binary64.signed s m) e)

/-- The order of two places. -/
def Place.compare : Place → Place → Ordering
  | low, low => .eq
  | low, _ => .lt
  | _, low => .gt
  | high, high => .eq
  | _, high => .lt
  | high, _ => .gt
  | point m d, point n e =>
      let base := min d e
      Ord.compare (m * Nat.pow 2 (d - base).toNat) (n * Nat.pow 2 (e - base).toNat)

/-- The order of two numbers. -/
def compare? (a b : Number) : Option Ordering := do
  some (Place.compare (← a.place?) (← b.place?))

/-- Whether the first number is less than the second. -/
def lt (a b : Number) : Bool := compare? a b == some .lt

/-- Whether the first number is at most the second. -/
def le (a b : Number) : Bool := compare? a b == some .lt || compare? a b == some .eq

end Number
end Polyglot

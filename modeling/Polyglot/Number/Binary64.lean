/-!
# Binary floating point

Numbers of the format binary64. A finite number is a sign, a mantissa below `2^53`
and an exponent of two from `-1074` to `971`; its value is `± mantissa * 2^exponent`.
A number other than a zero has a mantissa of at least `2^52` unless its exponent is
`-1074`, so equal numbers have equal parts. Every operation is the exact operation on
values followed by one rounding to the nearest number, a tie going to the even mantissa.
-/
namespace Polyglot

/-- A binary64 number. -/
inductive Binary64
  | nan
  | infinity (negative : Bool)
  | finite (negative : Bool) (mantissa : Nat) (exponent : Int)
  deriving DecidableEq, Repr, Inhabited

/-- The quotient rounded to the nearest integer, a half to the even neighbour. -/
def divHalfEven (num den : Nat) : Nat :=
  let q := num / den
  let r := num % den
  if 2 * r < den then q
  else if den < 2 * r then q + 1
  else if q % 2 = 0 then q else q + 1

namespace Binary64

def zero : Binary64 := .finite false 0 (-1074)

/-- The nearest number to `num / den` with the given sign, for `den` not zero. -/
def ofRatio (negative : Bool) (num den : Nat) : Binary64 :=
  if num = 0 then .finite negative 0 (-1074)
  else
    let guess : Int := max (Int.ofNat num.log2 - Int.ofNat den.log2 - 53) (-1074)
    let floorAt (e : Int) : Nat := (num <<< (-e).toNat) / (den <<< e.toNat)
    let e := if floorAt guess < Nat.pow 2 53 then guess else guess + 1
    let m := divHalfEven (num <<< (-e).toNat) (den <<< e.toNat)
    let (m, e) := if m = Nat.pow 2 53 then (Nat.pow 2 52, e + 1) else (m, e)
    if 971 < e then .infinity negative else .finite negative m e

/-- The value of a finite number as a fraction whose denominator is a power of two. -/
def toRatio (mantissa : Nat) (exponent : Int) : Nat × Nat :=
  (mantissa <<< exponent.toNat, 1 <<< (-exponent).toNat)

/-- The nearest number to an integer, or `none` when it is beyond the largest number. -/
def ofInt? (n : Int) : Option Binary64 :=
  match ofRatio (n < 0) n.natAbs 1 with
  | .finite s m e => some (.finite s m e)
  | _ => none

/-- The sign bit; a number that is not a number has none. -/
def isNegative : Binary64 → Bool
  | nan => false
  | infinity s => s
  | finite s _ _ => s

def isNaN : Binary64 → Bool
  | nan => true
  | _ => false

/-- The number with the opposite sign. -/
def neg : Binary64 → Binary64
  | nan => nan
  | infinity s => infinity !s
  | finite s m e => finite (!s) m e

def signed (negative : Bool) (m : Nat) : Int := if negative then -Int.ofNat m else Int.ofNat m

/-- The sum. Zeros of both signs add up to the positive zero. -/
def add : Binary64 → Binary64 → Binary64
  | nan, _ => nan
  | _, nan => nan
  | infinity a, infinity b => if a = b then infinity a else nan
  | infinity a, finite .. => infinity a
  | finite .., infinity b => infinity b
  | finite a m d, finite b n e =>
      let low := min d e
      let total := signed a (m <<< (d - low).toNat) + signed b (n <<< (e - low).toNat)
      if total = 0 then finite (a && b) 0 (-1074)
      else
        let (num, den) := toRatio total.natAbs low
        ofRatio (total < 0) num den

def mul : Binary64 → Binary64 → Binary64
  | nan, _ => nan
  | _, nan => nan
  | infinity a, infinity b => infinity (a != b)
  | infinity a, finite b n _ => if n = 0 then nan else infinity (a != b)
  | finite a m _, infinity b => if m = 0 then nan else infinity (a != b)
  | finite a m d, finite b n e =>
      let (num, den) := toRatio (m * n) (d + e)
      ofRatio (a != b) num den

/-- Where the value lies on the number line: the order of infinities and finite values. -/
def compare? : Binary64 → Binary64 → Option Ordering
  | nan, _ => none
  | _, nan => none
  | infinity a, infinity b => some (if a = b then .eq else if a then .lt else .gt)
  | infinity a, finite .. => some (if a then .lt else .gt)
  | finite .., infinity b => some (if b then .gt else .lt)
  | finite a m d, finite b n e =>
      let low := min d e
      some (compare (signed a (m <<< (d - low).toNat)) (signed b (n <<< (e - low).toNat)))

/-- Whether the value is a whole number; infinities are not. -/
def isWhole : Binary64 → Bool
  | finite _ m e => 0 ≤ e || m % (1 <<< (-e).toNat) == 0
  | _ => false

/-- The whole part of a finite value, the fraction cut off. -/
def truncate? : Binary64 → Option Int
  | finite s m e => let (num, den) := toRatio m e; some (signed s (num / den))
  | _ => none

/-- The fraction that is left when the whole part is taken away, with the sign of the number. -/
def fraction : Binary64 → Binary64
  | finite s m e => let (num, den) := toRatio m e; ofRatio s (num % den) den
  | x => x

/-- The nearest whole number to a finite value, a half to the even neighbour. -/
def nearestInt? : Binary64 → Option Int
  | finite s m e => let (num, den) := toRatio m e; some (signed s (divHalfEven num den))
  | _ => none

/-- The nearest number to the value rounded to decimal places, a half to the even digit. -/
def roundTo (places : Nat) : Binary64 → Binary64
  | finite s m e =>
      let (num, den) := toRatio m e
      ofRatio s (divHalfEven (num * Nat.pow 10 places) den) (Nat.pow 10 places)
  | x => x

end Binary64
end Polyglot

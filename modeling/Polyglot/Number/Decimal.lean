import Polyglot.Number.Literal

/-!
# Decimal arithmetic

Decimal floating point with 28 digits. A finite number is a sign, a coefficient and an
exponent of ten, so `1.0` and `1.00` are different numbers of equal value. Operations
are exact and then rounded once to 28 digits, a half going to the even digit. An
operation without a proper result fails with a `DecimalFault` and never yields an
infinity or a special value in its place.
-/
namespace Polyglot

/-- A decimal number. A diagnostic number (not a number) carries a payload and may signal. -/
inductive Decimal
  | finite (negative : Bool) (coefficient : Nat) (exponent : Int)
  | infinity (negative : Bool)
  | nan (negative signaling : Bool) (payload : Nat)
  deriving DecidableEq, Repr, Inhabited

/-- Why a decimal operation has no result. -/
inductive DecimalFault
  /-- the operands have no meaningful result, or it has more digits than fit -/
  | invalid
  /-- a number other than zero divided by zero -/
  | divisionByZero
  /-- the result is beyond the largest exponent -/
  | overflow
  deriving DecidableEq, Repr

namespace Decimal

/-- The number of digits of a coefficient; zero has one. -/
def width (n : Nat) : Nat := (Text.natDigits n).length

/-- The digits a result may have. -/
def precision : Nat := 28

/-- The largest exponent of the first digit of a result. -/
def maxExponent : Int := 999999

/-- The smallest exponent of the last digit of a result. -/
def minScale : Int := -1000026

def ofInt (n : Int) : Decimal := .finite (n < 0) n.natAbs 0

def isNegative : Decimal → Bool
  | finite s _ _ => s
  | infinity s => s
  | nan s _ _ => s

def isInfinite : Decimal → Bool
  | infinity _ => true
  | _ => false

def isFinite : Decimal → Bool
  | finite .. => true
  | _ => false

def isNaN : Decimal → Bool
  | nan .. => true
  | _ => false

/-- The coefficient at a new exponent, a half going to the even digit. -/
def rescale (coefficient : Nat) (exponent target : Int) : Nat :=
  if target ≤ exponent then coefficient * Nat.pow 10 (exponent - target).toNat
  else
    let drop := (target - exponent).toNat
    if width coefficient + 1 < drop then 0 else divHalfEven coefficient (Nat.pow 10 drop)

/-- Rounds to the digits a result may have. -/
def fix (negative : Bool) (coefficient : Nat) (exponent : Int) : Except DecimalFault Decimal :=
  if coefficient = 0 then
    .ok (.finite negative 0 (min (max exponent minScale) maxExponent))
  else
    let target := max (exponent + (Int.ofNat (width coefficient) - Int.ofNat precision)) minScale
    let (c, e) :=
      if target ≤ exponent then (coefficient, exponent)
      else
        let c := rescale coefficient exponent target
        -- Rounding up may have made one digit too many.
        if width c > precision then (c / 10, target + 1) else (c, target)
    if maxExponent < e + Int.ofNat (width c) - 1 then .error .overflow
    else .ok (.finite negative c e)

/-- A diagnostic operand decides the result: a signaling one fails, and a quiet one is the
result, with the last digits of its payload that fit. -/
def quiet : Decimal → Except DecimalFault Decimal
  | nan s false p => .ok (nan s false (p % Nat.pow 10 precision))
  | nan _ true _ => .error .invalid
  | x => .ok x

/-- The absolute value. A diagnostic number keeps its sign. -/
def abs : Decimal → Except DecimalFault Decimal
  | finite _ c e => fix false c e
  | infinity _ => .ok (infinity false)
  | x => quiet x

/-- The exponent of the first digit. -/
def adjusted (coefficient : Nat) (exponent : Int) : Int :=
  exponent + Int.ofNat (width coefficient) - 1

def signed (negative : Bool) (n : Nat) : Int := if negative then -Int.ofNat n else Int.ofNat n

/-- The sum of two finite numbers other than zero. An operand far below the last digit that
counts is replaced by a unit there, which rounds alike. -/
def addFinite (a : Bool) (c : Nat) (d : Int) (b : Bool) (n : Nat) (e : Int) :
    Except DecimalFault Decimal :=
  let (a, c, d, b, n, e) := if d < e then (b, n, e, a, c, d) else (a, c, d, b, n, e)
  -- Now `e ≤ d`.
  let floor := d + min (-1) (Int.ofNat (width c) - Int.ofNat precision - 2)
  let (n, e) := if adjusted n e < floor then (1, floor) else (n, e)
  let total := signed a (c * Nat.pow 10 (d - e).toNat) + signed b n
  if total = 0 then fix (a && b) 0 e else fix (total < 0) total.natAbs e

def add : Decimal → Decimal → Except DecimalFault Decimal
  | nan s true p, _ => quiet (nan s true p)
  | _, nan s true p => quiet (nan s true p)
  | nan s q p, _ => quiet (nan s q p)
  | _, nan s q p => quiet (nan s q p)
  | infinity a, infinity b => if a = b then .ok (infinity a) else .error .invalid
  | infinity a, finite .. => .ok (infinity a)
  | finite .., infinity b => .ok (infinity b)
  | finite a c d, finite b n e =>
      if c = 0 ∧ n = 0 then fix (a && b) 0 (min d e)
      else if c = 0 then
        let low := max (min d e) (e - Int.ofNat precision - 1)
        fix b (rescale n e low) low
      else if n = 0 then
        let low := max (min d e) (d - Int.ofNat precision - 1)
        fix a (rescale c d low) low
      else addFinite a c d b n e

def neg : Decimal → Decimal
  | finite s c e => finite (!s) c e
  | infinity s => infinity !s
  | x => x

def sub (x y : Decimal) : Except DecimalFault Decimal := add x (neg y)

def mul : Decimal → Decimal → Except DecimalFault Decimal
  | nan s true p, _ => quiet (nan s true p)
  | _, nan s true p => quiet (nan s true p)
  | nan s q p, _ => quiet (nan s q p)
  | _, nan s q p => quiet (nan s q p)
  | infinity a, infinity b => .ok (infinity (a != b))
  | infinity a, finite b n _ => if n = 0 then .error .invalid else .ok (infinity (a != b))
  | finite a c _, infinity b => if c = 0 then .error .invalid else .ok (infinity (a != b))
  | finite a c d, finite b n e => fix (a != b) (c * n) (d + e)

/-- Removes zeros at the end of a coefficient, as many as bring the exponent up to `goal`. -/
def stripZeros (goal : Int) (coefficient : Nat) (exponent : Int) : Nat × Int :=
  if h : coefficient ≠ 0 ∧ coefficient % 10 = 0 ∧ exponent < goal then
    stripZeros goal (coefficient / 10) (exponent + 1)
  else (coefficient, exponent)
termination_by coefficient
decreasing_by omega

/-- The quotient by a positive whole number. -/
def divNat (x : Decimal) (n : Nat) : Except DecimalFault Decimal :=
  match x with
  | finite s c e =>
      if n = 0 then .error (if c = 0 then .invalid else .divisionByZero)
      else if c = 0 then fix s 0 e
      else
        let shift := Int.ofNat (width n) - Int.ofNat (width c) + Int.ofNat precision + 1
        let num := c * Nat.pow 10 shift.toNat
        let den := n * Nat.pow 10 (-shift).toNat
        let q := num / den
        if num % den = 0 then
          let (q, k) := stripZeros e q (e - shift)
          fix s q k
        else
          -- A last digit of zero or five would hide the remainder from the rounding.
          fix s (if q % 5 = 0 then q + 1 else q) (e - shift)
  | infinity s => .ok (infinity s)
  | x => quiet x

/-- Moves the decimal point `places` to the right. -/
def scaleBy (places : Int) : Decimal → Except DecimalFault Decimal
  | finite s c e => fix s c (e + places)
  | infinity s => .ok (infinity s)
  | x => quiet x

/-- The exponent of the first digit; zero for a number that has none. -/
def topExponent : Decimal → Int
  | finite _ c e => adjusted c e
  | _ => 0

/-- The product with a power of ten. A power beyond the largest exponent is no number. -/
def mulPowerOfTen (n : Int) (x : Decimal) : Except DecimalFault Decimal :=
  if maxExponent < n then .error .overflow else mul x (.finite false 1 n)

/-- The number of equal value without zeros at its end; every zero becomes `0`. -/
def normalize : Decimal → Except DecimalFault Decimal
  | finite s c e => do
      match ← fix s c e with
      | finite s c e =>
          if c = 0 then .ok (.finite s 0 0)
          else let (c, e) := stripZeros maxExponent c e; .ok (.finite s c e)
      | x => .ok x
  | infinity s => .ok (infinity s)
  | x => quiet x

/-- The number rounded to `places` digits after the point, which must fit. -/
def quantize (places : Nat) : Decimal → Except DecimalFault Decimal
  | finite s c e =>
      let target := -Int.ofNat places
      if c ≠ 0 ∧ Int.ofNat precision < adjusted c e - target + 1 then .error .invalid
      else
        let q := rescale c e target
        if precision < width q then .error .invalid else .ok (.finite s q target)
  | infinity _ => .error .invalid
  | x => quiet x

/-- The digits after the point that the value needs. -/
def fractionPlaces : Decimal → Except DecimalFault Nat
  | x => do
      match ← normalize x with
      | finite _ _ e => .ok (-e).toNat
      | _ => .ok 0

/-- The order of two values; a diagnostic number has none. -/
def compare? : Decimal → Decimal → Option Ordering
  | nan .., _ => none
  | _, nan .. => none
  | infinity a, infinity b => some (if a = b then .eq else if a then .lt else .gt)
  | infinity a, finite .. => some (if a then .lt else .gt)
  | finite .., infinity b => some (if b then .gt else .lt)
  | finite a c d, finite b n e =>
      some <|
        if c = 0 ∧ n = 0 then .eq
        else if c = 0 then if b then .gt else .lt
        else if n = 0 then if a then .lt else .gt
        else if a ≠ b then if a then .lt else .gt
        else
          let order :=
            if adjusted c d ≠ adjusted n e then compare (adjusted c d) (adjusted n e)
            else
              let low := min d e
              compare (c * Nat.pow 10 (d - low).toNat) (n * Nat.pow 10 (e - low).toNat)
          if a then order.swap else order

/-- Whether two values are equal; a signaling operand fails. -/
def equal (x y : Decimal) : Except DecimalFault Bool :=
  match x, y with
  | nan _ true _, _ => .error .invalid
  | _, nan _ true _ => .error .invalid
  | x, y => .ok (compare? x y == some .eq)

/-- Whether the first value is at least the second; a diagnostic operand fails. -/
def atLeast (x y : Decimal) : Except DecimalFault Bool :=
  match compare? x y with
  | none => .error .invalid
  | some o => .ok (o != .lt)

/-- The whole part of the absolute value. -/
def wholeAbs (coefficient : Nat) (exponent : Int) : Nat :=
  if 0 ≤ exponent then coefficient * Nat.pow 10 exponent.toNat
  else if Int.ofNat (width coefficient) < -exponent then 0
  else coefficient / Nat.pow 10 (-exponent).toNat

/-- Whether a number has no fraction. -/
def isWhole (coefficient : Nat) (exponent : Int) : Bool :=
  if 0 ≤ exponent ∨ coefficient = 0 then true
  else if Int.ofNat (width coefficient) < -exponent then false
  else coefficient % Nat.pow 10 (-exponent).toNat = 0

/-- The digits in front of the point and behind it, without a sign. -/
def fixedParts (coefficient : Nat) (exponent : Int) : List Char × List Char :=
  let ds := Text.natDigits coefficient
  if 0 ≤ exponent then
    (if coefficient = 0 then ds else ds ++ List.replicate exponent.toNat '0', [])
  else
    let places := (-exponent).toNat
    let padded := Text.padZeros (places + 1) ds
    (padded.take (padded.length - places), padded.drop (padded.length - places))

/-- The digits of a payload; zero has none. -/
def payloadText (p : Nat) : List Char := if p = 0 then [] else Text.natDigits p

/-- The text of a number: positional when no zeros have to be added at the end and at most
five after the point, and otherwise with an exponent. -/
def text : Decimal → String
  | nan s sig p =>
      String.ofList ((if s then ['-'] else []) ++ (if sig then "sNaN" else "NaN").toList ++
        payloadText p)
  | infinity s => if s then "-Infinity" else "Infinity"
  | finite s c e =>
      let sign : List Char := if s then ['-'] else []
      let top := adjusted c e
      if e ≤ 0 ∧ -7 < top then
        let (a, b) := fixedParts c e
        String.ofList (sign ++ a ++ (if b.isEmpty then [] else '.' :: b))
      else
        let ds := Text.natDigits c
        let head := if ds.length = 1 then ds else ds.take 1 ++ '.' :: ds.drop 1
        String.ofList (sign ++ head ++ ['E', if top < 0 then '-' else '+'] ++
          Text.natDigits top.natAbs)

def maxLiteralExponent : Int := 999999999999999999

/-- A literal of a diagnostic number: `nan` or `snan` with the digits of a payload. -/
def nanLiteral? (s : Bool) (cs : List Char) : Option Decimal :=
  let (signaling, r) :=
    match cs with
    | c :: r => if c.toLower = 's' then (true, r) else (false, c :: r)
    | [] => (false, [])
  if Literal.isWord "nan" (r.take 3) && (r.drop 3).all Text.isDigit then
    some (.nan s signaling (Text.digitsToNat (r.drop 3)))
  else none

/-- Reads a decimal number exactly. Blanks around it and all underscores are skipped. -/
def read? (cs : List Char) : Option Decimal :=
  let ds := (Text.trim cs).filter (· ≠ '_')
  let (s, r) := Literal.cutSign ds
  if Literal.isWord "inf" r || Literal.isWord "infinity" r then some (.infinity s)
  else
    match nanLiteral? s r with
    | some x => some x
    | none =>
        match Literal.parts? ds with
        | none => none
        | some p =>
            let c := p.coefficient
            if maxLiteralExponent < adjusted c p.scale ∨
                p.scale < -maxLiteralExponent - maxLiteralExponent then none
            else some (.finite p.negative c p.scale)

end Decimal
end Polyglot

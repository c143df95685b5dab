import Polyglot.Number.Literal
import Polyglot.Text.Case
import Polyglot.Text.Quoted
import Polyglot.Value.Text
import Polyglot.Yaml.Tag
import Polyglot.Yaml.Token

/-!
# YAML scalars

The values of scalars. Underscores in numbers do not count, and numbers may be written in parts of
base sixty between colons.
-/
namespace Polyglot.Yaml

open Text

/-- Cuts a sign and the underscores off a number; there is something to be cut. -/
def cutSign (cs : List Char) : Except Fault (Bool × List Char) :=
  match cs.filter (· ≠ '_') with
  | [] => .error .emptyNumber
  | '-' :: r => .ok (true, r)
  | '+' :: r => .ok (false, r)
  | cs => .ok (false, cs)

/-- What is said of a text that is no whole number. -/
def badInt (base : Nat) (cs : List Char) : Fault :=
  .value s!"invalid literal for int() with base {base}: {quotedString (String.ofList cs)}"

/-- Reads a decimal whole number. -/
def decimalInt (cs : List Char) : Except Fault Int :=
  match Literal.int cs with
  | .ok n => .ok n
  | .error .malformed => .error (badInt 10 cs)
  | .error (.tooLong n) => .error (.value (Literal.tooLongText n))

/-- Reads a whole number of another base; the mark of the base may stand in front of it. -/
def basedInt (base : Nat) (mark : Char) (cs : List Char) : Except Fault Int :=
  let (negative, r) := Literal.cutSign (Literal.trimPadding cs)
  let r :=
    match r with
    | '0' :: m :: t => if m.toLower = mark then t else r
    | _ => r
  if !r.isEmpty && r.all (Radix.isDigit base) then
    let n := Int.ofNat (Radix.toNat base r)
    .ok (if negative then -n else n)
  else .error (badInt base cs)

/-- The number of parts of base sixty, the last one first. -/
def sexagesimal (parts : List Int) : Int :=
  parts.foldr (fun part n => n * 60 + part) 0

/-- The whole number of a scalar. -/
def intOf (cs : List Char) : Except Fault Int := do
  let (negative, r) ← cutSign cs
  let n ←
    match r with
    | [] => .error .emptyNumber
    | ['0'] => .ok 0
    | '0' :: 'b' :: t => basedInt 2 'b' t
    | '0' :: 'x' :: t => basedInt 16 'x' t
    | '0' :: _ => basedInt 8 'o' r
    | _ =>
        if ':' ∈ r then ((splitOn ':' r).mapM decimalInt).map fun ps => sexagesimal ps.reverse
        else decimalInt r
  .ok (if negative then -n else n)

/-- Reads a decimal binary64 number. -/
def decimalFloat (cs : List Char) : Except Fault Binary64 :=
  match Literal.binary64? cs with
  | some x => .ok x
  | none =>
      .error (.value s!"could not convert string to float: {quotedString (String.ofList cs)}")

/-- The sum of parts, each of which counts sixty times as much as the one before. -/
def sexagesimalSum (total : Binary64) (base : Nat) : List Binary64 → Binary64
  | [] => total
  | part :: r =>
      sexagesimalSum (total.add (part.mul (Binary64.ofRatio false base 1))) (base * 60) r

/-- The binary64 number of a scalar. -/
def floatOf (cs : List Char) : Except Fault Binary64 := do
  let (negative, r) ← cutSign (lower (String.ofList cs)).toList
  let s := String.ofList r
  let x ←
    if s = ".inf" then .ok (Binary64.infinity false)
    else if s = ".nan" then .ok .nan
    else if ':' ∈ r then
      ((splitOn ':' r).mapM decimalFloat).map fun ps => sexagesimalSum .zero 1 ps.reverse
    else decimalFloat r
  .ok (if negative then x.neg else x)

/-- The truth value of a scalar. -/
def boolOf (cs : List Char) : Except Fault Bool :=
  let word := lower (String.ofList cs)
  if ["yes", "true", "on"].contains word then .ok true
  else if ["no", "false", "off"].contains word then .ok false
  else .error (.word word)

/-! ## Times -/

def dayOf (year month day : Nat) : Except Fault Date :=
  if year = 0 then .error (.value "year 0 is out of range")
  else if month = 0 ∨ 12 < month then .error (.value "month must be in 1..12")
  else if day = 0 ∨ Date.daysInMonth year month < day then
    .error (.value "day is out of range for month")
  else .ok ⟨year, month, day⟩

/-- A time of day that exists. -/
def clockOf (hour minute second micro : Nat) : Except Fault Clock :=
  if 23 < hour then .error (.value "hour must be in 0..23")
  else if 59 < minute then .error (.value "minute must be in 0..59")
  else if 59 < second then .error (.value "second must be in 0..59")
  else .ok ⟨hour, minute, second, micro⟩

/-- The microseconds of a fraction; what is finer does not count. -/
def microsOf (fraction : List Char) : Nat :=
  let six := fraction.take 6
  Radix.toNat 10 (six ++ List.replicate (6 - six.length) '0')

def dayMicros : Nat := 86400000000

/-- An offset in microseconds, which is less than a day. -/
def offsetOf : Option (Bool × List Char × List Char) → Except Fault Int
  | none => .ok 0
  | some (negative, hours, minutes) =>
      let n := (Radix.toNat 10 hours * 60 + Radix.toNat 10 minutes) * 60000000
      let micros := if negative then -Int.ofNat n else Int.ofNat n
      if n < dayMicros then .ok micros
      else
        .error (.value ("offset must be a timedelta strictly between -timedelta(hours=24) and " ++
          "timedelta(hours=24), not " ++ spanLiteral micros ++ "."))

/-- The day or moment of a scalar. -/
def timeOf (cs : List Char) : Except Fault Value :=
  match TimeParts.read? cs with
  | none => .error .time
  | some t => do
      let n := Radix.toNat 10
      match t.clock with
      | none => (dayOf (n t.year) (n t.month) (n t.day)).map .date
      | some (hour, minute, second, fraction) => do
          let offset ← t.zone.mapM offsetOf
          let day ← dayOf (n t.year) (n t.month) (n t.day)
          let clock ← clockOf (n hour) (n minute) (n second) (microsOf fraction)
          .ok (.moment ⟨day, clock, offset⟩)

/-! ## Scalars -/

/-- The value of a scalar; there is none of a tag of collections. -/
def scalarOf (tag : Tag) (cs : List Char) : Except Fault Value :=
  match tag with
  | .null => .ok .null
  | .bool => (boolOf cs).map .bool
  | .int => (intOf cs).map .int
  | .float => (floatOf cs).map .float
  | .time => timeOf cs
  | .text => .ok (.text (String.ofList cs))
  | _ => .error .construction

end Polyglot.Yaml

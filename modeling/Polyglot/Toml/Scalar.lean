import Polyglot.Number.Literal
import Polyglot.Toml.Text
import Polyglot.Value.Text

/-!
# TOML scalars

Days, times and numbers. An underscore may separate two digits of a number. A day and a time of
day with an offset make a moment.
-/
namespace Polyglot.Toml

open Text

/-! ## Numbers -/

/-- Cuts off the rest of a run of digits, without the underscores that separate them. -/
def cutDigits (isDigit : Char → Bool) : List Char → List Char × List Char
  | [] => ([], [])
  | c :: r =>
      if isDigit c then
        let (ds, rest) := cutDigits isDigit r
        (c :: ds, rest)
      else if c = '_' ∧ (r.head?.any isDigit) then cutDigits isDigit r
      else ([], c :: r)

/-- Cuts off a run of digits, which starts with one. -/
def cutRun (isDigit : Char → Bool) (cs : List Char) : List Char × List Char :=
  if cs.head?.any isDigit then cutDigits isDigit cs else ([], cs)

def cutDecimal (cs : List Char) : List Char × List Char := cutRun (Radix.isDigit 10) cs

/-- Reads an integer with the mark of its base in front, if there is one. -/
def based? (cs : List Char) : Option (Value × List Char) :=
  let base? : Option Nat :=
    match cs with
    | '0' :: 'x' :: _ => some 16
    | '0' :: 'o' :: _ => some 8
    | '0' :: 'b' :: _ => some 2
    | _ => none
  base?.bind fun base =>
    let (ds, rest) := cutRun (Radix.isDigit base) (cs.drop 2)
    if ds.isEmpty then none else some (.int (Int.ofNat (Radix.toNat base ds)), rest)

def cutExponent (cs : List Char) : List Char × List Char :=
  match cs with
  | e :: r =>
      let (sign, t) : List Char × List Char :=
        match r with
        | '+' :: t => (['+'], t)
        | '-' :: t => (['-'], t)
        | t => ([], t)
      let (ds, rest) := cutDecimal t
      if (e = 'e' ∨ e = 'E') ∧ !ds.isEmpty then (e :: (sign ++ ds), rest) else ([], cs)
  | [] => ([], [])

/-- Reads a decimal number: an integer, or a binary64 number if it has a fraction or an
exponent. -/
def decimal? (cs : List Char) : Option (Except Fault (Value × List Char)) :=
  let (negative, r) := Literal.cutSign cs
  let (whole, r) : List Char × List Char :=
    match r with
    | '0' :: t => (['0'], t)
    | t => cutDecimal t
  if whole.isEmpty then none
  else
    let (fraction, r) : List Char × List Char :=
      match r with
      | '.' :: t =>
          let (ds, rest) := cutDecimal t
          if ds.isEmpty then ([], r) else ('.' :: ds, rest)
      | t => ([], t)
    let (exponent, r) := cutExponent r
    if fraction.isEmpty && exponent.isEmpty then
      match Literal.natOfDigits whole with
      | .ok n => some (.ok (.int (if negative then -Int.ofNat n else Int.ofNat n), r))
      | .error _ => some (.error (.tooLong whole.length))
    else
      (Literal.parts? (whole ++ fraction ++ exponent)).map fun p =>
        .ok (.float ({ p with negative := negative } : Literal.Parts).toBinary64, r)

/-- Reads an infinity or the number that is none. -/
def special? (cs : List Char) : Option (Value × List Char) :=
  let (negative, r) := Literal.cutSign cs
  match r with
  | 'i' :: 'n' :: 'f' :: t => some (.float (.infinity negative), t)
  | 'n' :: 'a' :: 'n' :: t => some (.float .nan, t)
  | _ => none

/-! ## Days and times -/

/-- Cuts off a number of just as many digits. -/
def cutNumber? (width : Nat) (cs : List Char) : Option (Nat × List Char) :=
  let ds := cs.take width
  if ds.length = width ∧ ds.all (Radix.isDigit 10) then
    some (Radix.toNat 10 ds, cs.drop width)
  else none

def cutMark? (mark : Char) : List Char → Option (List Char)
  | [] => none
  | c :: r => if c = mark then some r else none

/-- Cuts off the fraction of a second; what is finer than a microsecond does not count. -/
def cutFraction (cs : List Char) : Nat × List Char :=
  match cs with
  | '.' :: r =>
      let ds := r.takeWhile (Radix.isDigit 10)
      if ds.isEmpty then (0, cs)
      else
        let six := ds.take 6
        (Radix.toNat 10 (six ++ List.replicate (6 - six.length) '0'), r.drop ds.length)
  | cs => (0, cs)

def cutHourMinute? (cs : List Char) : Option (Nat × Nat × List Char) := do
  let (hour, r) ← cutNumber? 2 cs
  let (minute, r) ← cutNumber? 2 (← cutMark? ':' r)
  if hour < 24 ∧ minute < 60 then some (hour, minute, r) else none

/-- Cuts off a time of day. -/
def cutClock? (cs : List Char) : Option (Clock × List Char) := do
  let (hour, minute, r) ← cutHourMinute? cs
  let (second, r) ← cutNumber? 2 (← cutMark? ':' r)
  let (micro, r) := cutFraction r
  if second < 60 then some (⟨hour, minute, second, micro⟩, r) else none

/-- Cuts off an offset in microseconds, if there is one. -/
def cutOffset (cs : List Char) : Option Int × List Char :=
  let signed (sign : Int) (r : List Char) : Option Int × List Char :=
    match cutHourMinute? r with
    | some (hour, minute, rest) =>
        (some (sign * Int.ofNat ((hour * 60 + minute) * 60000000)), rest)
    | none => (none, cs)
  match cs with
  | 'Z' :: r => (some 0, r)
  | 'z' :: r => (some 0, r)
  | '+' :: r => signed 1 r
  | '-' :: r => signed (-1) r
  | cs => (none, cs)

/-- Cuts off a day, which need not exist in its month. -/
def cutDay? (cs : List Char) : Option (Date × List Char) := do
  let (year, r) ← cutNumber? 4 cs
  let (month, r) ← cutNumber? 2 (← cutMark? '-' r)
  let (day, r) ← cutNumber? 2 (← cutMark? '-' r)
  if 1 ≤ month ∧ month ≤ 12 ∧ 1 ≤ day ∧ day ≤ 31 then some (⟨year, month, day⟩, r) else none

/-- Reads a day or a moment. -/
def date? (cs : List Char) : Option (Except Fault (Value × List Char)) :=
  (cutDay? cs).map fun (day, r) =>
    if !day.isValid then .error .malformed
    else
      let time : Option (Clock × List Char) :=
        match r with
        | c :: t => if c = 'T' ∨ c = 't' ∨ c = ' ' then cutClock? t else none
        | [] => none
      match time with
      | none => .ok (.date day, r)
      | some (clock, r) =>
          let (offset, r) := cutOffset r
          .ok (.moment ⟨day, clock, offset⟩, r)

/-- Reads a time of day without a day, which stands for its text. -/
def time? (cs : List Char) : Option (Value × List Char) :=
  (cutClock? cs).map fun (clock, r) => (.text clock.iso, r)

/-! ## Scalars -/

/-- Reads a scalar other than a text. -/
def scalar (cs : List Char) : Except Fault (Value × List Char) :=
  match cs with
  | 't' :: 'r' :: 'u' :: 'e' :: r => .ok (.bool true, r)
  | 'f' :: 'a' :: 'l' :: 's' :: 'e' :: r => .ok (.bool false, r)
  | cs =>
      let found := date? cs <|> (time? cs).map .ok <|> (based? cs).map .ok <|> decimal? cs <|>
        (special? cs).map .ok
      found.getD (.error .malformed)

end Polyglot.Toml

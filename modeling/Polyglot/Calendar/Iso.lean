import Polyglot.Calendar.Moment
import Polyglot.Text.Utf8

/-!
# ISO 8601 texts

Reader for the ISO 8601 forms of a moment. The date is `YYYY-MM-DD`, `YYYYMMDD`,
`YYYY-Www`, `YYYYWww`, `YYYY-Www-D` or `YYYYWwwD`. Any one character separates it from the
time, which is `HH`, `HH:MM` or `HH:MM:SS` with or without the colons, a fraction of a
second after a point, a comma or one more colon, and an offset of the same form after a sign,
or `Z`. The text is read byte by byte; each byte is held as the character of its number.
-/
namespace Polyglot.Iso

/-- Whether the character is one of `0` to `9`. -/
def isAsciiDigit (c : Char) : Bool := '0' ≤ c && c ≤ '9'

/-- Reads exactly `n` digits and returns the rest. -/
def digits? : Nat → List Char → Option (Nat × List Char)
  | 0, cs => some (0, cs)
  | n + 1, cs =>
      match cs with
      | [] => none
      | c :: r =>
          if isAsciiDigit c then
            (digits? n r).map fun (v, r) => ((c.toNat - 48) * Nat.pow 10 n + v, r)
          else none

/-- The length of the date at the start of a text of at least seven characters. -/
def dateLength? (cs : List Char) : Option Nat :=
  let len := cs.length
  let at_ (k : Nat) : Char := cs.getD k ' '
  if len = 7 then some 7
  else if at_ 4 = '-' then
    if at_ 5 = 'W' then
      if at_ 8 = '-' ∧ 8 < len then
        if len = 9 then none
        else if 10 < len ∧ isAsciiDigit (at_ 10) then some 8
        else some 10
      else some 8
    else some 10
  else if at_ 4 = 'W' then
    let stop := 7 + ((cs.drop 7).takeWhile isAsciiDigit).length
    if stop < 9 then some stop
    else if stop % 2 = 0 then some 7
    else some 8
  else some 8

/-- Reads a text that is a date and nothing else. -/
def date? (cs : List Char) : Option Date := do
  let (year, r) ← digits? 4 cs
  let (dashed, r) :=
    match r with
    | '-' :: t => (true, t)
    | t => (false, t)
  let dash (cs : List Char) : Option (List Char) :=
    if dashed then
      match cs with
      | '-' :: t => some t
      | _ => none
    else some cs
  match r with
  | 'W' :: r =>
      let (week, r) ← digits? 2 r
      if r.isEmpty then Date.ofWeek? year week 1
      else
        let (day, r) ← digits? 1 (← dash r)
        if r.isEmpty then Date.ofWeek? year week day else none
  | r =>
      let (month, r) ← digits? 2 r
      let (day, r) ← digits? 2 (← dash r)
      let d : Date := ⟨year, month, day⟩
      if r.isEmpty && d.isValid then some d else none

/-- Whether a text goes on; it ends with a zero byte as well. -/
def goesOn : List Char → Bool
  | [] => false
  | c :: _ => c != '\x00'

/-- Reads up to six digits of a fraction as microseconds; further digits are cut off. The
first `size` bytes belong to the fraction. Also tells whether the text goes on. -/
def fraction? (cs : List Char) (size : Nat) : Option (Nat × Bool) := do
  let used := min size 6
  let (v, r) ← digits? used cs
  some (v * Nat.pow 10 (6 - used), goesOn (r.dropWhile isAsciiDigit))

/-- Reads a time whose text ends after `size` bytes, from the part with the given
index on (hours are 0, minutes 1, seconds 2). Also tells whether more text follows. -/
def parts? : (part : Nat) → (colons : Bool) → List Char → (size : Nat) → Option (List Nat × Bool)
  | part, colons, a :: b :: r, size =>
      if !(isAsciiDigit a && isAsciiDigit b) then none
      else
        let v := (a.toNat - 48) * 10 + (b.toNat - 48)
        let colons := if part = 0 then r.head? == some ':' else colons
        if size ≤ 3 then some ([v], goesOn r)
        else
          match r with
          | [] => none
          | c :: t =>
              if colons && c == ':' && part < 2 then
                (parts? (part + 1) colons t (size - 3)).map fun (vs, m) => (v :: vs, m)
              else if c == '.' || c == ',' || (colons && c == ':') then
                (fraction? t (size - 3)).map fun (us, m) =>
                  (v :: (List.replicate (2 - part) 0 ++ [us]), m)
              else if colons then none
              else if 2 ≤ part then
                (fraction? (c :: t) (size - 2)).map fun (us, m) => ([v, us], m)
              else (parts? (part + 1) colons (c :: t) (size - 2)).map fun (vs, m) => (v :: vs, m)
  | _, _, _, _ => none

/-- The parts of a time; those that are not written are zero. -/
def clockOf (vs : List Nat) : Clock := ⟨vs.getD 0 0, vs.getD 1 0, vs.getD 2 0, vs.getD 3 0⟩

/-- The offset of a time: a time right at the prime meridian but for a fraction of a second is
universal time. -/
def offsetOf (isWest : Bool) (z : Clock) : Int :=
  let seconds := z.hour * 3600 + z.minute * 60 + z.second
  let micros := Int.ofNat (seconds * 1000000 + z.micro)
  if seconds = 0 then 0 else if isWest then -micros else micros

/-- Reads a time of day and its offset. -/
def time? (cs : List Char) : Option (Clock × Option Int) := do
  let isZone (c : Char) : Bool := c == '+' || c == '-' || c == 'Z'
  let size := (cs.takeWhile fun c => !isZone c).length
  -- A zone sign in front stands for an empty time, which is refused.
  let (vs, more) ← parts? 0 false cs size
  let clock := clockOf vs
  if !clock.isValid then none
  else
    match cs.drop size with
    | [] => if more then none else some (clock, none)
    | 'Z' :: r => if goesOn r then none else some (clock, some 0)
    | sign :: r =>
        let (zs, more) ← parts? 0 false r r.length
        let offset := offsetOf (sign = '-') (clockOf zs)
        if more || 86400000000 ≤ offset.natAbs then none else some (clock, some offset)

/-- The bytes of a text, each as the character of its number. -/
def bytes (cs : List Char) : List Char :=
  cs.flatMap fun c => (Text.utf8Bytes c).map Char.ofNat

/-- How many bytes a character has, by the first of them. -/
def byteCount (first : Char) : Nat :=
  if first.toNat < 128 then 1
  else if first.toNat < 224 then 2
  else if first.toNat < 240 then 3
  else 4

/-- Reads a moment; without a time it is midnight. -/
def moment? (text : List Char) : Option Moment := do
  let cs := bytes text
  if cs.length < 7 then none
  else
    let n ← dateLength? cs
    let date ← date? (cs.take n)
    match cs.drop n with
    | [] => some ⟨date, .midnight, none⟩
    | separator :: r =>
        let (clock, offset) ← time? (r.drop (byteCount separator - 1))
        some ⟨date, clock, offset⟩

end Polyglot.Iso

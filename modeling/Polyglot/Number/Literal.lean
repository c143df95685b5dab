import Polyglot.Number.Binary64
import Polyglot.Text.Blank
import Polyglot.Text.Digit

/-!
# Number literals

Readers of numbers written as text. Blanks around a literal are skipped, the information
separators apart, the digits of every script count, and an underscore may separate two digits. A
literal of a whole number has at most 4300 digits.
-/
namespace Polyglot.Literal

open Text

/-- Whether a blank may stand around a literal: an information separator may not. -/
def isPadding (c : Char) : Bool := isBlank c && !(28 ≤ c.toNat && c.toNat ≤ 31)

/-- Drops the blanks around a literal. -/
def trimPadding (cs : List Char) : List Char :=
  ((cs.dropWhile isPadding).reverse.dropWhile isPadding).reverse

/-- A decimal literal taken apart: `± whole.fraction * 10^exponent`. -/
structure Parts where
  negative : Bool
  whole : List Char
  fraction : List Char
  exponent : Int
  deriving DecidableEq, Repr

/-- All digits before the exponent. -/
def Parts.coefficient (p : Parts) : Nat := digitsToNat (p.whole ++ p.fraction)

/-- The exponent of the last digit. -/
def Parts.scale (p : Parts) : Int := p.exponent - Int.ofNat p.fraction.length

def cutSign : List Char → Bool × List Char
  | '-' :: r => (true, r)
  | '+' :: r => (false, r)
  | cs => (false, cs)

/-- The exponent part, if the rest is one: `e`, a sign and digits. -/
def exponent? : List Char → Option Int
  | [] => some 0
  | c :: r =>
      if c = 'e' ∨ c = 'E' then
        let (s, ds) := cutSign r
        if ds.isEmpty || !ds.all isDigit then none
        else some (if s then -Int.ofNat (digitsToNat ds) else Int.ofNat (digitsToNat ds))
      else none

/-- Takes a decimal literal without blanks and underscores apart. -/
def parts? (cs : List Char) : Option Parts :=
  let (s, r) := cutSign cs
  let whole := r.takeWhile isDigit
  let r := r.dropWhile isDigit
  let (fraction, r) :=
    match r with
    | '.' :: t => (t.takeWhile isDigit, t.dropWhile isDigit)
    | t => ([], t)
  if whole.isEmpty && fraction.isEmpty then none
  else (exponent? r).map fun e => ⟨s, whole, fraction, e⟩

/-- Removes the underscores that separate two digits; `none` when another one is left. -/
def joinDigits? : List Char → Option (List Char)
  | [] => some []
  | ['_'] => none
  | [c] => some [c]
  | c :: d :: r =>
      if c = '_' then none
      else if d = '_' then
        match r with
        | e :: _ => if isDigit c && isDigit e then (joinDigits? r).map (c :: ·) else none
        | [] => none
      else (joinDigits? (d :: r)).map (c :: ·)

/-- Why a text is no whole number. -/
inductive IntFault
  | malformed
  | tooLong (digits : Nat)
  deriving DecidableEq, Repr

/-- The longest literal of a whole number, in digits. -/
def maxIntDigits : Nat := 4300

/-- Whether a whole number has a literal: it has few enough digits. -/
def isWritable (n : Int) : Bool := decide (n.natAbs < Nat.pow 10 maxIntDigits)

/-- Why a whole number with too many digits is not written. -/
def tooWideText : String :=
  s!"Exceeds the limit ({maxIntDigits} digits) for integer string conversion; " ++
    "use sys.set_int_max_str_digits() to increase the limit"

/-- Why a literal with too many digits is refused. -/
def tooLongText (digits : Nat) : String :=
  s!"Exceeds the limit ({maxIntDigits} digits) for integer string conversion: " ++
    s!"value has {digits} digits; use sys.set_int_max_str_digits() to increase the limit"

/-- Reads a run of digits as a whole number. -/
def natOfDigits (ds : List Char) : Except IntFault Nat :=
  if maxIntDigits < ds.length then .error (.tooLong ds.length) else .ok (digitsToNat ds)

/-- Reads a whole number with an optional sign. -/
def int (cs : List Char) : Except IntFault Int :=
  match joinDigits? (trimPadding cs) with
  | none => .error .malformed
  | some ds =>
      let (s, ds) := cutSign ds
      if ds.isEmpty || !ds.all isDigit then .error .malformed
      else (natOfDigits ds).map fun n => if s then -Int.ofNat n else Int.ofNat n

/-- Whether the text is the given word in any letter case. -/
def isWord (w : String) (cs : List Char) : Bool := cs.map Char.toLower == w.toList

/-- The nearest binary64 number to a decimal literal. -/
def Parts.toBinary64 (p : Parts) : Binary64 :=
  let n := p.coefficient
  let top : Int := Int.ofNat (natDigits n).length + p.scale
  if n = 0 ∨ top < -400 then .finite p.negative 0 (-1074)
  else if 400 < top then .infinity p.negative
  else Binary64.ofRatio p.negative (n * Nat.pow 10 p.scale.toNat) (Nat.pow 10 (-p.scale).toNat)

/-- Reads a binary64 number: a decimal literal, an infinity or a text for no number. -/
def binary64? (cs : List Char) : Option Binary64 :=
  match joinDigits? (trimPadding cs) with
  | none => none
  | some ds =>
      let (s, r) := cutSign ds
      if isWord "inf" r || isWord "infinity" r then some (.infinity s)
      else if isWord "nan" r then some .nan
      else (parts? ds).map Parts.toBinary64

end Polyglot.Literal

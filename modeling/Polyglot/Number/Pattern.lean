import Polyglot.Number.Decimal
import Polyglot.Text.Blank

/-!
# Number patterns

A number pattern such as `#,##0.00;(#,##0.00)` says how a decimal number is printed: the
texts around it, the fewest digits of the whole part and of the fraction, the most digits
of the fraction, and the sizes of the groups of digits. A percent sign in the texts around
the number multiplies it by one hundred. A pattern such as `0.##E0` prints a number with an
exponent, and a pattern with an at sign prints so many significant digits.
-/
namespace Polyglot

/-- The text in front of a number and the text behind it. -/
structure Affixes where
  front : List Char
  back : List Char
  deriving DecidableEq, Repr

/-- How an exponent is printed. -/
structure ExponentForm where
  /-- whether an exponent that is not negative has a sign -/
  hasPlus : Bool
  minDigits : Nat
  deriving DecidableEq, Repr

/-- A number pattern. `groups` holds the size of the last group and that of the others. -/
structure NumberPattern where
  source : String
  positive : Affixes
  negative : Affixes
  hasNumber : Bool
  minWhole : Nat
  maxWhole : Nat
  minFraction : Nat
  maxFraction : Nat
  groups : Nat × Nat
  exponent : Option ExponentForm
  /-- how many places the point moves to the right before printing -/
  shift : Nat
  deriving DecidableEq, Repr

/-- The symbols that a number is printed with. -/
structure NumberSymbols where
  point : String
  groupMark : String
  infinity : String
  minus : String
  plus : String
  exponentMark : String
  deriving DecidableEq, Repr

/-- Why a text is no number pattern. -/
inductive PatternFault
  /-- significant digits with a fraction of required digits -/
  | mixedDigits
  deriving DecidableEq, Repr

namespace NumberPattern

/-- The characters that end the text in front of the number. -/
def startsNumber (c : Char) : Bool :=
  ('0' ≤ c && c ≤ '9') || c == '@' || c == '#' || c == '.' || c == ','

def isNumberChar (c : Char) : Bool := startsNumber c || c == 'E' || c == '+'

/-- Splits off the text in front of the number, from inside or outside of quotes. A quoted part
belongs to it as a whole, and so it ends where a quote is not closed. -/
def cutFrontFrom (isQuoted : Bool) : List Char → List Char × List Char
  | [] => ([], [])
  | c :: r =>
      if c = '\'' then
        if isQuoted || r.contains '\'' then
          let (a, b) := cutFrontFrom (!isQuoted) r
          (c :: a, b)
        else ([], c :: r)
      else if !isQuoted && startsNumber c then ([], c :: r)
      else
        let (a, b) := cutFrontFrom isQuoted r
        (c :: a, b)

/-- Splits off the text in front of the number. -/
def cutFront (cs : List Char) : List Char × List Char := cutFrontFrom false cs

/-- The parts of a pattern: front, number and back. The back ends with its line. -/
def cutParts (cs : List Char) : List Char × List Char × List Char :=
  let (front, r) := cutFront cs
  (front, r.takeWhile isNumberChar, (r.dropWhile isNumberChar).takeWhile (· ≠ '\n'))

/-- The characters of a part of a number that stand for digits. -/
def places (cs : List Char) : List Char :=
  cs.takeWhile fun c => c == '0' || c == '#' || c == '@' || c == ','

/-- The number of digits that are always printed. -/
def required (cs : List Char) : Nat :=
  ((places cs).filter fun c => c == '0' || c == '@').length

/-- The number of digits that are printed at most. -/
def allowed (cs : List Char) : Nat := ((places cs).filter (· ≠ ',')).length

/-- The size of groups in a pattern without commas. -/
def wideGroup : Nat := 1000

/-- The sizes of the groups, from the last two commas. -/
def groupSizes (whole : List Char) : Nat × Nat :=
  match (Text.splitOn ',' whole).reverse with
  | last :: [_] => (last.length, last.length)
  | last :: next :: _ => (last.length, next.length)
  | _ => (wideGroup, wideGroup)

/-- Cuts at the last point. -/
def cutLastPoint (cs : List Char) : List Char × List Char :=
  match (Text.splitOn '.' cs).reverse with
  | [] => ([], [])
  | [whole] => (whole, [])
  | fraction :: rest => (List.intercalate ['.'] rest.reverse, fraction)

/-- The form of an exponent; without one the exponent is not printed. -/
def exponentForm? (cs : List Char) : Option ExponentForm :=
  if cs.isEmpty then none
  else some ⟨cs.head? == some '+', required (cs.dropWhile (· == '+'))⟩

/-- Reads a pattern. Without a part for negative numbers they get a minus sign in front. -/
def parse (source : String) : Except PatternFault NumberPattern :=
  let (positive, negative) := Text.cutAt ';' source.toList
  let (front, number, back) := cutParts positive
  let minus : Affixes :=
    match negative with
    | some cs => let (f, _, b) := cutParts cs; ⟨f, b⟩
    | none => ⟨'-' :: front, back⟩
  let (digits, exponent) := Text.cutAt 'E' number
  if digits.contains '@' && digits.contains '.' && digits.contains '0' then .error .mixedDigits
  else
    let (whole, fraction) := cutLastPoint digits
    let around := front ++ minus.front ++ back ++ minus.back
    .ok {
      source := source
      positive := ⟨front, back⟩
      negative := minus
      hasNumber := !digits.isEmpty
      minWhole := required whole
      maxWhole := allowed whole
      minFraction := required fraction
      maxFraction := allowed fraction
      groups := groupSizes whole
      exponent := exponent.bind exponentForm?
      shift := if around.contains '%' then 2 else if around.contains '‰' then 3 else 0 }

/-- Whether a pattern counts significant digits; an at sign anywhere in it says so. -/
def isSignificant (p : NumberPattern) : Bool := p.source.toList.contains '@'

/-- Puts marks between groups; the digits and the mark are in reverse order. -/
def groupReversed (mark : List Char) (size next : Nat) (ds : List Char) : List Char :=
  if ds.length ≤ size then ds
  else if size = 0 then ds ++ mark
  else ds.take size ++ mark ++ groupReversed mark next next (ds.drop size)
termination_by ds.length
decreasing_by simp only [List.length_drop]; omega

/-- Puts marks between groups of digits, counted from the end. -/
def group (sizes : Nat × Nat) (mark : String) (ds : List Char) : List Char :=
  (groupReversed mark.toList.reverse sizes.1 sizes.2 ds.reverse).reverse

/-- A whole number: filled up with zeros and grouped. -/
def wholeText (p : NumberPattern) (least : Nat) (mark : String) (ds : List Char) : List Char :=
  group p.groups mark (Text.padZeros least ds)

/-- Drops zeros at the end, as long as more than `least` digits are left. -/
def dropZeros (least : Nat) (ds : List Char) : List Char :=
  ds.take least ++ ((ds.drop least).reverse.dropWhile (· == '0')).reverse

/-- The fraction with its point, or nothing when no digit of it has to be printed. -/
def fractionText (least most : Nat) (point : String) (ds : List Char) : List Char :=
  let ds := ds ++ List.replicate (least - ds.length) '0'
  if most = 0 ∨ (least = 0 ∧ ds.all (· == '0')) then []
  else point.toList ++ dropZeros least ds

/-- The digits in front of the point and behind it; words for numbers that have none. -/
def digitParts : Decimal → List Char × List Char
  | .finite s c e =>
      let (a, b) := Decimal.fixedParts c e
      (if s then '-' :: a else a, b)
  | x => (x.text.toList, [])

/-- The text of an absolute value with `least` to `most` digits of a fraction. -/
def numberText (p : NumberPattern) (symbols : NumberSymbols) (least most : Nat) (x : Decimal) :
    Except DecimalFault (List Char) :=
  if x.isInfinite then .ok symbols.infinity.toList
  else
    match x.quantize most with
    | .error e => .error e
    | .ok rounded =>
        let (whole, fraction) := digitParts rounded
        let fraction := if fraction.isEmpty then ['0'] else fraction
        .ok (p.wholeText p.minWhole symbols.groupMark whole ++
          fractionText least most symbols.point fraction)

/-! ## Significant digits -/

/-- The text of an absolute value in which `least` to `most` digits count. Zeros take the place
of the others in front of the point; behind it those beyond `least` are dropped at the end. -/
def significantDigits (least most : Nat) (x : Decimal) : Except DecimalFault (List Char) := do
  let top := x.topExponent
  let scale := Int.ofNat most - 1 - top
  let rounded ← (← x.scaleBy scale).quantize 0
  let ds := rounded.text.toList
  if scale ≤ 0 then return ds ++ List.replicate (-scale).toNat '0'
  else
    let whole := ds.take (ds.length - scale.toNat)
    let fraction := ds.drop whole.length
    let kept := least - whole.length
    let gap := List.replicate (-(top + 1)).toNat '0'
    let tail := gap ++ fraction.take kept ++ dropZeros 0 (fraction.drop kept)
    return (if whole.isEmpty then ['0'] else whole) ++ (if tail.isEmpty then [] else '.' :: tail)

/-- The text of an absolute value with the significant digits that a pattern asks for. -/
def significantText (p : NumberPattern) (symbols : NumberSymbols) (x : Decimal) :
    Except DecimalFault (List Char) :=
  (significantDigits p.minWhole p.maxWhole x).map fun cs =>
    let (whole, fraction) := Text.cutAt '.' cs
    p.wholeText 0 symbols.groupMark whole ++
      (fraction.map (symbols.point.toList ++ ·)).getD []

/-! ## Exponents -/

/-- A value with as many digits in front of the point as a pattern requires, but at least one,
and the exponent that belongs to it. -/
def exponentParts (p : NumberPattern) (x : Decimal) : Except DecimalFault (Decimal × Int) := do
  let lead := Int.ofNat (p.minWhole - 1)
  let first ← (← x.mulPowerOfTen (-x.topExponent)).mulPowerOfTen lead
  return (first, x.topExponent - lead)

/-- The text of an exponent, with its mark in front. -/
def exponentText (p : NumberPattern) (form : ExponentForm) (symbols : NumberSymbols) (e : Int) :
    List Char :=
  let sign := if e < 0 then symbols.minus else if form.hasPlus then symbols.plus else ""
  (symbols.exponentMark ++ sign).toList ++
    p.wholeText form.minDigits symbols.groupMark (Text.natDigits e.natAbs)

/-- Where a text stands with regard to quotes. -/
inductive Quoting
  | outside
  /-- right after an opening quote -/
  | opened
  | inside
  deriving DecidableEq

/-- A text without the quotes in it; a quoted part that is empty stands for a quote, and a quote
that is not closed for itself. -/
def unquoteFrom (q : Quoting) : List Char → List Char
  | [] => []
  | c :: r =>
      if c = '\'' then
        match q with
        | .outside => if r.contains '\'' then unquoteFrom .opened r else c :: r
        | .opened => c :: unquoteFrom .outside r
        | .inside => unquoteFrom .outside r
      else c :: unquoteFrom (if q = .outside then .outside else .inside) r

/-- A text without the quotes in it. -/
def unquote (cs : List Char) : List Char := unquoteFrom .outside cs

/-- How the digits of the fraction are chosen. -/
inductive Places
  /-- as many as the pattern says -/
  | pattern
  /-- exactly so many -/
  | exactly (n : Nat)
  /-- as many as the number has, and at least as many as the pattern says -/
  | natural
  deriving DecidableEq, Repr

/-- The fewest and the most digits of the fraction of an absolute value. A pattern that has no
fraction prints a number with an exponent in full. -/
def fractionLimits (p : NumberPattern) (places : Places) (x : Decimal) :
    Except DecimalFault (Nat × Nat) :=
  let (least, most) :=
    match places with
    | .exactly n => (n, n)
    | _ => (p.minFraction, p.maxFraction)
  if places = .natural ∨ (p.exponent.isSome ∧ least = 0 ∧ most = 0) then
    x.fractionPlaces.map fun n => (least, max most n)
  else .ok (least, most)

def absoluteText (p : NumberPattern) (symbols : NumberSymbols) (places : Places) (x : Decimal) :
    Except DecimalFault (List Char) := do
  match p.exponent with
  | some form =>
      let (x, e) ← p.exponentParts x
      let (least, most) ← p.fractionLimits places x
      return (← p.numberText symbols least most x) ++ p.exponentText form symbols e
  | none =>
      let (least, most) ← p.fractionLimits places x
      if p.isSignificant then p.significantText symbols x
      else p.numberText symbols least most x

/-- Prints a number. A currency symbol takes the place of the currency sign. -/
def apply (p : NumberPattern) (symbols : NumberSymbols) (places : Places)
    (currencySymbol : Option String) (x : Decimal) : Except DecimalFault String := do
  let x ← x.scaleBy p.shift
  let affixes := if x.isNegative then p.negative else p.positive
  let number ← p.absoluteText symbols places (← (← x.abs).normalize)
  let text := affixes.front ++ (if p.hasNumber then number else []) ++ affixes.back
  let text :=
    match currencySymbol with
    | none => text
    | some s => text.flatMap fun c => if c = '¤' then s.toList else [c]
  .ok (String.ofList (unquote text))

end NumberPattern
end Polyglot

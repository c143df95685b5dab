import Polyglot.Locale.Basic
import Polyglot.Number.Pattern

/-!
# Numbers in a locale

Prints decimal numbers, percentages, amounts of money and compact numbers with the symbols
and patterns of a locale.
-/
namespace Polyglot

inductive CompactLength
  | short
  | long
  deriving DecidableEq, Repr

/-- Why a number cannot be printed. -/
inductive NumberFault
  | decimal (fault : DecimalFault)
  | pattern (fault : PatternFault)
  | plural (fault : PluralFault)
  /-- the locale, as that of Japan, has compact numbers of the other length only -/
  | noCompact (length : CompactLength)
  deriving DecidableEq, Repr

namespace Locale

def symbols (l : Locale) : NumberSymbols where
  point := l.data.point
  groupMark := l.data.groupMark
  infinity := l.data.infinity
  minus := l.data.minus
  plus := l.data.plus
  exponentMark := l.data.exponentMark

/-- The symbol of a currency; an unknown currency is its own symbol. -/
def currencySymbol (l : Locale) (code : String) : String :=
  (Entries.get? l.data.currencySymbols code).getD code

def currencyPlaces (l : Locale) (code : String) : Nat :=
  (Entries.get? l.data.currencyPlaces code).getD 2

def printWith (l : Locale) (pattern : String) (places : NumberPattern.Places)
    (currency : Option String) (x : Decimal) : Except NumberFault String :=
  match NumberPattern.parse pattern with
  | .error e => .error (.pattern e)
  | .ok p => (p.apply l.symbols places (currency.map l.currencySymbol) x).mapError .decimal

/-- Prints a number, with the locale's pattern unless another one is given. -/
def decimal (l : Locale) (pattern : Option String) (x : Decimal) : Except NumberFault String :=
  l.printWith (pattern.getD l.data.decimalPattern) .pattern none x

def percent (l : Locale) (pattern : Option String) (x : Decimal) : Except NumberFault String :=
  l.printWith (pattern.getD l.data.percentPattern) .pattern none x

/-- Prints an amount of money with the locale's pattern and the digits of the currency. -/
def money (l : Locale) (code : String) (x : Decimal) : Except NumberFault String :=
  let places := if code.isEmpty then .pattern else .exactly (l.currencyPlaces code)
  l.printWith l.data.currencyPattern places (some code) x

/-- Prints an amount of money with a pattern and the digits that it says. -/
def moneyWith (l : Locale) (pattern code : String) (x : Decimal) : Except NumberFault String :=
  l.printWith pattern .pattern (some code) x

def compactTable? (l : Locale) : CompactLength → Option CompactTable
  | .short => l.data.compactShort
  | .long => l.data.compactLong

def formPatterns (table : CompactTable) (form : String) : List (Nat × String) :=
  (Entries.get? table form).getD []

/-- The pattern for a magnitude in a plural form, or in the general form. -/
def compactPattern (table : CompactTable) (form : String) (magnitude : Nat) : String :=
  match (formPatterns table form).lookup magnitude with
  | some p => p
  | none => ((formPatterns table "other").lookup magnitude).getD "0"

/-- The largest magnitude that the absolute value reaches; only a finite number has one. -/
def magnitudeOf (x : Decimal) : List (Nat × String) → Except DecimalFault (Option (Nat × String))
  | [] => .ok none
  | m :: ms => do
      if !x.isFinite then .ok none
      else if ← (← x.abs).atLeast (Decimal.ofInt m.1) then .ok (some m)
      else magnitudeOf x ms

/-- The plural form of a reduced number; exactly one has a form of its own in some tables. -/
def compactForm (l : Locale) (table : CompactTable) (x : Decimal) : Except NumberFault String :=
  match x.abs with
  | .error e => .error (.decimal e)
  | .ok a =>
      match l.data.plural.categoryOf a with
      | .error e => .error (.plural e)
      | .ok c =>
          match x.equal (Decimal.ofInt 1) with
          | .error e => .error (.decimal e)
          | .ok isOne =>
              .ok (if isOne && Entries.has table "1" then "1"
                else if Entries.has table c.name then c.name else "other")

/-- Prints a number in compact form with the given digits of a fraction. A number below
every magnitude is printed as it is. -/
def compact (l : Locale) (length : CompactLength) (places : Nat) (x : Decimal) :
    Except NumberFault String :=
  match l.compactTable? length with
  | none => .error (.noCompact length)
  | some table =>
      let magnitudes := (formPatterns table "other").reverse
      match magnitudeOf x magnitudes with
      | .error e => .error (.decimal e)
      | .ok none => l.printWith l.data.decimalPattern .natural none x
      | .ok (some (magnitude, pattern)) =>
          if pattern = "0" then l.printWith pattern .natural none x
          else
            let unit := magnitude / Nat.pow 10 (pattern.toList.count '0' - 1)
            match x.divNat unit with
            | .error e => .error (.decimal e)
            | .ok reduced =>
                match reduced.quantize places with
                | .error e => .error (.decimal e)
                | .ok rounded =>
                    match l.compactForm table reduced with
                    | .error e => .error e
                    | .ok form =>
                        l.printWith (compactPattern table form magnitude) .natural none rounded

end Locale
end Polyglot

import Polyglot.Locale.Number
import Polyglot.Text.Blank

/-!
# Number skeletons

A number skeleton is a list of tokens, each of which settles one aspect of how a number is
printed: as a percentage, with a currency, in compact form, with which fraction, with or
without groups of digits, and with which factor. The tokens are collected first; what they
settle then decides how the number is printed.
-/
namespace Polyglot.Message

/-- A token of a number skeleton. -/
inductive SkeletonToken
  | percent
  | currency (code : String)
  | wholeOnly
  | compact (length : CompactLength)
  | ungrouped
  /-- a point with the digits of the fraction -/
  | fraction (digits : String)
  | scale (factor : String)
  deriving DecidableEq, Repr

/-- What stands behind a fixed front. -/
def afterFront? (front s : String) : Option String :=
  if front.toList.isPrefixOf s.toList then some (String.ofList (s.toList.drop front.length))
  else none

/-- Whether a text is a point with digits that are required or allowed behind it. -/
def isFraction : List Char → Bool
  | '.' :: ds => ds.all fun c => c == '0' || c == '#'
  | _ => false

def SkeletonToken.ofText? (s : String) : Option SkeletonToken :=
  if s = "percent" then some .percent
  else
    match afterFront? "currency/" s with
    | some code => some (.currency code)
    | none =>
        if s = "integer" ∨ s = "precision-integer" then some .wholeOnly
        else if s = "compact-short" ∨ s = "K" then some (.compact .short)
        else if s = "compact-long" ∨ s = "KK" then some (.compact .long)
        else if s = "group-off" ∨ s = ",_" then some .ungrouped
        else if isFraction s.toList then some (.fraction s)
        else (afterFront? "scale/" s).map .scale

/-- What the tokens settle. The fraction is a text: nothing for whole numbers, or a point
with digits. -/
structure Skeleton where
  currency : Option String
  percent : Bool
  compact : Option CompactLength
  fraction : Option String
  grouped : Bool
  deriving DecidableEq, Repr

/-- Nothing is settled yet. -/
def Skeleton.default : Skeleton := ⟨none, false, none, none, true⟩

/-- Why a skeleton cannot be used. -/
inductive SkeletonFault
  | unsupported (token : String)
  | decimal (fault : DecimalFault)
  deriving DecidableEq, Repr

/-- What is settled after one more token, and the number after it. -/
def Skeleton.step (state : Skeleton × Decimal) (token : SkeletonToken) :
    Except SkeletonFault (Skeleton × Decimal) :=
  let (k, x) := state
  match token with
  | .percent => .ok ({ k with percent := true }, x)
  | .currency code => .ok ({ k with currency := some code }, x)
  | .wholeOnly => .ok ({ k with fraction := some "" }, x)
  | .compact length => .ok ({ k with compact := some length }, x)
  | .ungrouped => .ok ({ k with grouped := false }, x)
  | .fraction digits => .ok ({ k with fraction := some digits }, x)
  | .scale factor =>
      match Decimal.read? factor.toList with
      | none => .error (.decimal .invalid)
      | some f => (x.mul f).mapError .decimal |>.map fun y => (k, y)

def Skeleton.collect (state : Skeleton × Decimal) :
    List String → Except SkeletonFault (Skeleton × Decimal)
  | [] => .ok state
  | t :: ts =>
      match SkeletonToken.ofText? t with
      | none => .error (.unsupported t)
      | some token =>
          match Skeleton.step state token with
          | .error e => .error e
          | .ok next => Skeleton.collect next ts

/-- How a number is printed. -/
inductive NumberStyle
  | plain (pattern : Option String)
  | percent (pattern : Option String)
  /-- the locale's pattern for amounts of money -/
  | money (code : String)
  | moneyWith (pattern code : String)
  | compact (length : CompactLength) (places : Nat)
  deriving DecidableEq, Repr

def Skeleton.wholePattern (k : Skeleton) : String := if k.grouped then "#,##0" else "0"

/-- How a number is printed when everything is settled. A compact form wins over a
currency, and a currency over a percentage. -/
def Skeleton.style (k : Skeleton) : NumberStyle :=
  match k.compact with
  | some length => .compact length ((k.fraction.getD "").length - 1)
  | none =>
      match k.currency, k.fraction with
      | some code, none => .money code
      | some code, some f => .moneyWith ("¤" ++ k.wholePattern ++ f) code
      | none, f =>
          if k.percent then .percent (f.map fun f => k.wholePattern ++ f ++ "%")
          else if f.isSome || !k.grouped then .plain (some (k.wholePattern ++ f.getD ""))
          else .plain none

def NumberStyle.print (style : NumberStyle) (l : Locale) (x : Decimal) :
    Except NumberFault String :=
  match style with
  | .plain p => l.decimal p x
  | .percent p => l.percent p x
  | .money code => l.money code x
  | .moneyWith p code => l.moneyWith p code x
  | .compact length places => l.compact length places x

/-- What prints numbers for a locale, and what is known of its patterns: those that it takes where
none is given, the mark between groups of digits, and the symbols of currencies. -/
structure NumberPrinter where
  decimalPattern : String
  percentPattern : String
  currencyPattern : String
  groupMark : String
  currencySymbol : String → String
  print : NumberStyle → Decimal → Except NumberFault String

/-- The printer of a locale whose data is known. -/
def printerOf (l : Locale) : NumberPrinter where
  decimalPattern := l.data.decimalPattern
  percentPattern := l.data.percentPattern
  currencyPattern := l.data.currencyPattern
  groupMark := l.data.groupMark
  currencySymbol := l.currencySymbol
  print style x := style.print l x

end Polyglot.Message

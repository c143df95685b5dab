import Polyglot.Calendar.Iso
import Polyglot.Locale.Date
import Polyglot.Message.Skeleton
import Polyglot.Message.Syntax
import Polyglot.Value.Text

/-!
# Templates

A template is a message bound to a locale and a currency. Rendering it fills in values:
a simple argument without a value stands for its source, every other argument needs one.
-/
namespace Polyglot.Message

/-- Why a template cannot be rendered. -/
inductive RenderFault
  | missing (argument : String)
  /-- the value is no number; its literal form is known unless it is a truth value -/
  | notNumber (argument : String) (literal : Option String)
  | notIso (argument literal : String)
  | notMoment (argument : String)
  | unsupportedToken (token : String)
  /-- an argument has no arm for every other case -/
  | noOther
  | decimal (fault : DecimalFault)
  | plural (fault : PluralFault)
  | number (fault : NumberFault)
  | date (fault : DateFault)
  | epoch (fault : EpochFault)
  /-- the currency is none that an amount can be written in -/
  | noCurrency
  /-- a whole number in a value has too many digits to be written -/
  | numberTooLong
  deriving DecidableEq, Repr

def RenderFault.text? : RenderFault → Option String
  | missing a => some s!"No value for argument '{a}'"
  | notNumber a none => some s!"Argument '{a}' must be a number"
  | notNumber a (some v) => some s!"Argument '{a}' must be a number, got {v}"
  | notIso a v => some s!"Argument '{a}' is not an ISO date: {v}"
  | notMoment a => some s!"Argument '{a}' must be a date or time"
  | unsupportedToken t => some s!"Unsupported number skeleton token '{t}'"
  | _ => none

/-- A message bound to a locale. -/
structure Template where
  nodes : List Node
  locale : Locale
  currency : Option String

/-- The plain text of a value, if it can be written. -/
def writtenText (v : Value) : Except RenderFault String :=
  if v.isWritable then .ok v.display else .error .numberTooLong

/-- The text of a value as a simple argument. Days and moments are printed in medium length. -/
def valueText (l : Locale) : Value → Except RenderFault String
  | .null => .ok ""
  | .bool b => .ok (if b then "true" else "false")
  | .float x => .ok (if x.isWhole then intString (x.truncate?.getD 0) else x.text)
  | .moment m => (l.moment m).mapError .date
  | .date d => (l.date "medium" d).mapError .date
  | v => writtenText v

/-- The text of a simple argument: of its value, or its source where it has none. -/
def argumentText (l : Locale) (values : Bundle) (name raw : String) : Except RenderFault String :=
  match Entries.get? values name with
  | some v => valueText l v
  | none => .ok raw

def require (name : String) (values : Bundle) : Except RenderFault Value :=
  match Entries.get? values name with
  | none => .error (.missing name)
  | some .null => .error (.missing name)
  | some v => .ok v

def toDecimal (name : String) (v : Value) : Except RenderFault Decimal :=
  match v with
  | .bool _ => .error (.notNumber name none)
  | .decimal d => .ok d
  | .int n => .ok (Decimal.ofInt n)
  | v =>
      match writtenText v with
      | .error e => .error e
      | .ok s =>
          match Decimal.read? s.toList with
          | some d => .ok d
          | none => .error (.notNumber name (some v.literal))

/-- A value as a moment. Days start at midnight, texts are read as ISO 8601, and numbers
count seconds since the start of 1970. -/
def toMoment (name : String) (v : Value) : Except RenderFault Moment :=
  match v with
  | .moment m => .ok m
  | .date d => .ok ⟨d, .midnight, none⟩
  | .int n => (Moment.ofEpoch n 0).mapError .epoch
  | .float x => (Moment.ofEpochSeconds x).mapError .epoch
  | .text s =>
      match Iso.moment? s.toList with
      | some m => .ok m
      | none => .error (.notIso name v.literal)
  | _ => .error (.notMoment name)

def exactNumber? (selector : String) : Option (List Char) :=
  match selector.toList with
  | '=' :: r => some r
  | _ => none

/-- The first exact selector whose number is the given one. -/
def findExact (x : Decimal) : List String → Except RenderFault (Option String)
  | [] => .ok none
  | s :: ss =>
      match exactNumber? s with
      | none => findExact x ss
      | some cs =>
          match Decimal.read? cs with
          | none => .error (.decimal .invalid)
          | some d =>
              match d.equal x with
              | .error e => .error (.decimal e)
              | .ok true => .ok (some s)
              | .ok false => findExact x ss

/-- A selector if there is an arm for it, and otherwise the one for every other case. -/
def orOther (selectors : List String) (s : String) : String :=
  if selectors.contains s then s else "other"

/-- The arm that a number selects, and the number without the offset. Exact selectors are
compared with the number itself, categories belong to the number without the offset. -/
def choosePlural (l : Locale) (offset : Nat) (ordinal : Bool) (selectors : List String)
    (x : Decimal) : Except RenderFault (String × Decimal) :=
  match findExact x selectors with
  | .error e => .error e
  | .ok (some s) =>
      (x.sub (Decimal.ofInt offset)).mapError .decimal |>.map fun r => (s, r)
  | .ok none =>
      match x.sub (Decimal.ofInt offset) with
      | .error e => .error (.decimal e)
      | .ok r =>
          let rules := if ordinal then l.data.ordinal else l.data.plural
          match rules.categoryOf r with
          | .error e => .error (.plural e)
          | .ok c => .ok (orOther selectors c.name, r)

def NumberPrinter.printSkeleton (b : NumberPrinter) (x : Decimal) (tokens : List String) :
    Except RenderFault String :=
  match Skeleton.collect (.default, x) tokens with
  | .error (.unsupported t) => .error (.unsupportedToken t)
  | .error (.decimal e) => .error (.decimal e)
  | .ok (k, y) => (b.print k.style y).mapError .number

def printSkeleton (l : Locale) (x : Decimal) (tokens : List String) : Except RenderFault String :=
  (printerOf l).printSkeleton x tokens

def printNumber (l : Locale) (currency : Option String) (style : Option String) (x : Decimal) :
    Except RenderFault String :=
  match style with
  | none => (l.decimal none x).mapError .number
  | some s =>
      if s = "integer" then (l.decimal (some "#,##0") x).mapError .number
      else if s = "percent" then (l.percent none x).mapError .number
      else if s = "currency" then
        match currency with
        | some c => (l.money c x).mapError .number
        | none => .error .noCurrency
      else
        match afterFront? "::" s with
        | some tokens => printSkeleton l x ((Text.words tokens.toList).map String.ofList)
        | none => (l.decimal (some s) x).mapError .number

def printMoment (l : Locale) (kind : DateKind) (style : Option String) (m : Moment) :
    Except RenderFault String :=
  let s := style.getD "medium"
  match afterFront? "::" s with
  | some skeleton => (l.skeleton skeleton m).mapError .date
  | none =>
      match kind with
      | .date => (l.date s m.date).mapError .date
      | .time => (l.time s m).mapError .date

/-- Two texts in a row. -/
def both (a b : Except RenderFault String) : Except RenderFault String :=
  match a with
  | .error e => .error e
  | .ok s =>
      match b with
      | .error e => .error e
      | .ok t => .ok (s ++ t)

mutual

/-- Renders a list of nodes. The number that `#` stands for is known inside plural arms. -/
def renderNodes (l : Locale) (currency : Option String) (values : Bundle) (pound : Option Decimal) :
    List Node → Except RenderFault String
  | [] => .ok ""
  | n :: ns => both (renderNode l currency values pound n) (renderNodes l currency values pound ns)

def renderNode (l : Locale) (currency : Option String) (values : Bundle) (pound : Option Decimal) :
    Node → Except RenderFault String
  | .text s => .ok s
  | .argument name raw => argumentText l values name raw
  | .pound =>
      match pound with
      | none => .ok "#"
      | some x => (l.decimal none x).mapError .number
  | .number name style =>
      match require name values with
      | .error e => .error e
      | .ok v =>
          match toDecimal name v with
          | .error e => .error e
          | .ok x => printNumber l currency style x
  | .moment kind name style =>
      match require name values with
      | .error e => .error e
      | .ok v =>
          match toMoment name v with
          | .error e => .error e
          | .ok m => printMoment l kind style m
  | .select name arms =>
      match require name values with
      | .error e => .error e
      | .ok v =>
          match valueText l v with
          | .error e => .error e
          | .ok s => renderArm l currency values pound (orOther (Entries.keys arms) s) arms
  | .plural name offset ordinal arms =>
      match require name values with
      | .error e => .error e
      | .ok v =>
          match toDecimal name v with
          | .error e => .error e
          | .ok x =>
              match choosePlural l offset ordinal (Entries.keys arms) x with
              | .error e => .error e
              | .ok (selector, r) => renderArm l currency values (some r) selector arms

def renderArm (l : Locale) (currency : Option String) (values : Bundle) (pound : Option Decimal)
    (selector : String) : List (String × List Node) → Except RenderFault String
  | [] => .error .noOther
  | (s, nodes) :: arms =>
      if s = selector then renderNodes l currency values pound nodes
      else renderArm l currency values pound selector arms

end

def Template.render (t : Template) (values : Bundle) : Except RenderFault String :=
  renderNodes t.locale t.currency values none t.nodes

end Polyglot.Message

import Polyglot.Number.Literal
import Polyglot.Number.Shortest
import Polyglot.Text.Quoted
import Polyglot.Value.Basic

/-!
# Texts of values

Two texts belong to every value: the plain one, in which a text stands for itself, and the
literal one, which diagnostics show and which quotes texts. Inside lists and mappings
values always appear in their literal form.
-/
namespace Polyglot

open Text

/-- A number filled up with zeros to a width. -/
def padded (width n : Nat) : String := String.ofList (padZeros width (natDigits n))

/-- The day as `YYYY-MM-DD`. -/
def Date.iso (d : Date) : String := s!"{padded 4 d.year}-{padded 2 d.month}-{padded 2 d.day}"

/-- The time as `HH:MM:SS`, with six digits of a fraction unless it is zero. -/
def Clock.iso (c : Clock) : String :=
  s!"{padded 2 c.hour}:{padded 2 c.minute}:{padded 2 c.second}" ++
    (if c.micro = 0 then "" else s!".{padded 6 c.micro}")

/-- An offset as a sign, hours and minutes, and seconds where they are needed. -/
def offsetText (micros : Int) : String :=
  let n := micros.natAbs
  let seconds := n / 1000000
  let base := s!"{padded 2 (seconds / 3600)}:{padded 2 (seconds / 60 % 60)}"
  let tail :=
    if n % 1000000 ≠ 0 then s!":{padded 2 (seconds % 60)}.{padded 6 (n % 1000000)}"
    else if seconds % 60 ≠ 0 then s!":{padded 2 (seconds % 60)}"
    else ""
  (if micros < 0 then "-" else "+") ++ base ++ tail

def Moment.text (m : Moment) : String :=
  s!"{m.date.iso} {m.clock.iso}" ++ (m.offset.map offsetText).getD ""

def Date.literal (d : Date) : String := s!"datetime.date({d.year}, {d.month}, {d.day})"

def intString (n : Int) : String := String.ofList (intText n)

/-- The literal form of a span of time in microseconds, as days, seconds and microseconds. -/
def spanLiteral (micros : Int) : String :=
  let days := Int.fdiv micros 86400000000
  let rest := Int.fmod micros 86400000000
  let parts :=
    (if days = 0 then [] else ["days=" ++ intString days]) ++
    (if rest / 1000000 = 0 then [] else ["seconds=" ++ intString (rest / 1000000)]) ++
    (if rest % 1000000 = 0 then []
      else ["microseconds=" ++ intString (rest % 1000000)])
  "datetime.timedelta(" ++ (if parts.isEmpty then "0" else ", ".intercalate parts) ++ ")"

def zoneLiteral (micros : Int) : String :=
  if micros = 0 then "datetime.timezone.utc"
  else s!"datetime.timezone({spanLiteral micros})"

/-- The literal form of a moment; seconds and microseconds appear where they are needed. -/
def Moment.literal (m : Moment) : String :=
  let fields := [m.date.year, m.date.month, m.date.day, m.clock.hour, m.clock.minute]
  let tail :=
    if m.clock.micro ≠ 0 then [m.clock.second, m.clock.micro]
    else if m.clock.second ≠ 0 then [m.clock.second]
    else []
  let parts := (fields ++ tail).map fun n => String.ofList (natDigits n)
  let zone := m.offset.map fun z => "tzinfo=" ++ zoneLiteral z
  "datetime.datetime(" ++ ", ".intercalate (parts ++ zone.toList) ++ ")"

namespace Key

def literal : Key → String
  | text s => quotedString s
  | null => "None"
  | bool b => if b then "True" else "False"
  | int n => intString n
  | float x => x.text
  | date d => d.literal
  | moment m => m.literal

def display : Key → String
  | text s => s
  | date d => d.iso
  | moment m => m.text
  | k => k.literal

def isWritable : Key → Bool
  | int n => Literal.isWritable n
  | _ => true

end Key

namespace Value

mutual

def literal : Value → String
  | null => "None"
  | bool b => if b then "True" else "False"
  | int n => intString n
  | float x => x.text
  | decimal d => "Decimal('" ++ d.text ++ "')"
  | date d => d.literal
  | moment m => m.literal
  | text s => quotedString s
  | list xs => "[" ++ ", ".intercalate (literals xs) ++ "]"
  | dict es => "\x7b" ++ ", ".intercalate (entryLiterals es) ++ "\x7d"

def literals : List Value → List String
  | [] => []
  | v :: r => literal v :: literals r

def entryLiterals : List (Key × Value) → List String
  | [] => []
  | (k, v) :: r => (k.literal ++ ": " ++ literal v) :: entryLiterals r

end

def display : Value → String
  | decimal d => d.text
  | date d => d.iso
  | moment m => m.text
  | text s => s
  | v => v.literal

mutual

/-- Whether a value has a text: every whole number in it has a literal. -/
def isWritable : Value → Bool
  | int n => Literal.isWritable n
  | list xs => areWritable xs
  | dict es => entriesWritable es
  | _ => true

def areWritable : List Value → Bool
  | [] => true
  | v :: r => isWritable v && areWritable r

def entriesWritable : List (Key × Value) → Bool
  | [] => true
  | (k, v) :: r => k.isWritable && isWritable v && entriesWritable r

end

/-- The name of the kind of a value, as diagnostics show it. -/
def kindName : Value → String
  | null => "NoneType"
  | bool _ => "bool"
  | int _ => "int"
  | float _ => "float"
  | decimal _ => "decimal.Decimal"
  | date _ => "datetime.date"
  | moment _ => "datetime.datetime"
  | text _ => "str"
  | list _ => "list"
  | dict _ => "dict"

end Value

end Polyglot

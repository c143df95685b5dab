import Polyglot.Number.Radix

/-!
# YAML tags

What a node stands for. A plain scalar without a tag stands for what it looks like: null, a truth
value, a number, a time or, when it looks like none of these, a text.
-/
namespace Polyglot.Yaml

/-- What a node stands for. -/
inductive Tag
  | null
  | bool
  | int
  | float
  | time
  | text
  | sequence
  | mapping
  | set
  | pairs
  /-- the key whose mapping is taken into the mapping around -/
  | merge
  /-- the key whose value stands for the mapping around -/
  | value
  | unknown
  deriving DecidableEq, Repr

namespace Tag

/-- What the tags of all documents begin with. -/
def root : String := "tag:yaml.org,2002:"

def names : List (String × Tag) :=
  [("null", null), ("bool", bool), ("int", int), ("float", float), ("timestamp", time),
    ("str", text), ("seq", sequence), ("map", mapping), ("set", set), ("omap", pairs),
    ("pairs", pairs), ("merge", merge), ("value", value)]

def ofName (name : String) : Tag :=
  ((names.find? fun e => root ++ e.1 = name).map (·.2)).getD unknown

/-- Whether a node of the tag is a collection, which is no key. -/
def isCollection (t : Tag) : Bool := t ∈ [sequence, mapping, set, pairs]

/-! ## What plain scalars look like -/

/-- The spellings of null. -/
def nullWords : List String := ["", "~", "null", "Null", "NULL"]

/-- The spellings of truth values. -/
def boolWords : List String :=
  ["yes", "Yes", "YES", "no", "No", "NO", "true", "True", "TRUE", "false", "False", "FALSE",
    "on", "On", "ON", "off", "Off", "OFF"]

def isDigit (c : Char) : Bool := Radix.isDigit 10 c

/-- Whether the character may follow the first digit of a number. -/
def isNumberTail (c : Char) : Bool := isDigit c || c == '_'

def unsigned : List Char → List Char
  | '-' :: r => r
  | '+' :: r => r
  | cs => cs

/-- Whether parts from 0 to 59, each after a colon, follow; there is at least one. -/
def isSexagesimalTail (fuel : Nat) (cs : List Char) : Bool :=
  match fuel, cs with
  | fuel + 1, ':' :: d :: e :: r =>
      if e = ':' then isDigit d && isSexagesimalTail fuel (e :: r)
      else '0' ≤ d && d ≤ '5' && isDigit e && (r.isEmpty || isSexagesimalTail fuel r)
  | _, [':', d] => isDigit d
  | _, _ => false

/-- Whether the text looks like a whole number without a sign. -/
def isNat (cs : List Char) : Bool :=
  match cs with
  | ['0'] => true
  | '0' :: 'b' :: r => !r.isEmpty && r.all fun c => c == '0' || c == '1' || c == '_'
  | '0' :: 'x' :: r => !r.isEmpty && r.all fun c => Radix.isDigit 16 c || c == '_'
  | '0' :: r => r.all fun c => Radix.isDigit 8 c || c == '_'
  | d :: r =>
      let tail := r.dropWhile isNumberTail
      isDigit d && (tail.isEmpty || isSexagesimalTail tail.length tail)
  | [] => false

/-- Whether an exponent, which must have a sign, or nothing stands there. -/
def isExponent : List Char → Bool
  | [] => true
  | e :: s :: d :: r => (e == 'e' || e == 'E') && (s == '+' || s == '-') && (d :: r).all isDigit
  | _ => false

/-- Whether the text looks like a number with a point. -/
def isPointed (cs : List Char) : Bool :=
  let s := String.ofList cs
  let r := unsigned cs
  if [".inf", ".Inf", ".INF"].contains (String.ofList r) then true
  else if [".nan", ".NaN", ".NAN"].contains s then true
  else
    match r with
    | '.' :: d :: t => r == cs && isDigit d && isExponent (t.dropWhile isNumberTail)
    | d :: t =>
        let front := (d :: t.takeWhile isNumberTail)
        let tail := t.dropWhile isNumberTail
        isDigit d && !front.isEmpty &&
          match tail with
          | '.' :: u => isExponent (u.dropWhile isNumberTail)
          | ':' :: _ =>
              let base := tail.takeWhile (· ≠ '.')
              let rest := tail.dropWhile (· ≠ '.')
              isSexagesimalTail base.length base && !rest.isEmpty &&
                (rest.drop 1).all isNumberTail
          | _ => false
    | [] => false

end Tag

/-! ## Times -/

/-- The parts of a time as they are written. -/
structure TimeParts where
  year : List Char
  month : List Char
  day : List Char
  /-- hour, minute, second and the digits of the fraction -/
  clock : Option (List Char × List Char × List Char × List Char)
  /-- a sign with hours and minutes, or no sign for universal time -/
  zone : Option (Option (Bool × List Char × List Char))
  deriving DecidableEq, Repr

namespace TimeParts

/-- Cuts off one of two numbers of digits, the larger one if it can be. -/
def digits? (least most : Nat) (cs : List Char) : Option (List Char × List Char) :=
  let ds := (cs.take most).takeWhile Tag.isDigit
  if least ≤ ds.length then some (ds, cs.drop ds.length) else none

/-- Cuts off a character and digits after it. -/
def after? (mark : Char) (least most : Nat) (cs : List Char) : Option (List Char × List Char) :=
  match cs with
  | c :: r => if c = mark then digits? least most r else none
  | [] => none

def isBlank (c : Char) : Bool := c == ' ' || c == '\t'

/-- Reads the offset at the end of a time; there may be none. -/
def zone? (cs : List Char) : Option (Option (Option (Bool × List Char × List Char))) :=
  match cs with
  | [] => some none
  | cs =>
      match cs.dropWhile isBlank with
      | ['Z'] => some (some none)
      | s :: r =>
          if s = '+' ∨ s = '-' then do
            let (hours, r) ← digits? 1 2 r
            let (minutes, r) ← if r.isEmpty then some ([], r) else after? ':' 2 2 r
            if r.isEmpty then some (some (some (s = '-', hours, minutes))) else none
          else none
      | [] => none

/-- Reads a time of day, and an offset after it. -/
def withClock? (year month day : List Char) (cs : List Char) : Option TimeParts := do
  let start ←
    match cs with
    | 'T' :: r => some r
    | 't' :: r => some r
    | c :: r => if isBlank c then some (r.dropWhile isBlank) else none
    | [] => none
  let (hour, r) ← digits? 1 2 start
  let (minute, r) ← after? ':' 2 2 r
  let (second, r) ← after? ':' 2 2 r
  let (fraction, r) :=
    match r with
    | '.' :: t => (t.takeWhile Tag.isDigit, t.dropWhile Tag.isDigit)
    | t => ([], t)
  let zone ← zone? r
  some ⟨year, month, day, some (hour, minute, second, fraction), zone⟩

/-- Reads a day, and a time of day after it. -/
def read? (cs : List Char) : Option TimeParts := do
  let (year, r) ← digits? 4 4 cs
  let (month, r) ← after? '-' 1 2 r
  let (day, r) ← after? '-' 1 2 r
  if r.isEmpty then some ⟨year, month, day, none, none⟩ else withClock? year month day r

/-- Whether a plain scalar is a time: a day alone is written with all its digits. -/
def isPlain (t : TimeParts) : Bool :=
  t.clock.isSome || (t.month.length == 2 && t.day.length == 2)

end TimeParts

namespace Tag

def ofPlain (cs : List Char) : Tag :=
  let s := String.ofList cs
  if nullWords.contains s then null
  else if boolWords.contains s then bool
  else if s = "<<" then merge
  else if s = "=" then value
  else if ["!", "&", "*"].contains s then unknown
  else if isPointed cs then float
  else if isNat (unsigned cs) then int
  else if (TimeParts.read? cs).any TimeParts.isPlain then time
  else text

end Tag
end Polyglot.Yaml

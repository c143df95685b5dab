import Polyglot.Calendar.Moment
import Polyglot.Number.Basic
import Polyglot.Number.Decimal

/-!
# Dynamic values

Bundles, message values and configuration are trees of dynamic values. A mapping keeps
its entries in the order in which their keys were first stored, and no key occurs twice. Keys
are texts as a rule; a document may have other scalars as keys, which no text finds.
-/
namespace Polyglot

/-- A key of a mapping. -/
inductive Key
  | text (s : String)
  | null
  | bool (b : Bool)
  | int (n : Int)
  | float (x : Binary64)
  | date (d : Date)
  | moment (m : Moment)
  deriving DecidableEq, Repr, Inhabited

instance : Coe String Key := ⟨Key.text⟩

/-- A dynamic value. -/
inductive Value
  | null
  | bool (b : Bool)
  | int (n : Int)
  | float (x : Binary64)
  | decimal (d : Decimal)
  | date (d : Date)
  | moment (m : Moment)
  | text (s : String)
  | list (items : List Value)
  | dict (entries : List (Key × Value))
  deriving Repr, Inhabited

/-- Mappings from keys to values, in order. -/
abbrev Bundle := List (Key × Value)

/-! ## Ordered mappings -/

namespace Entries

variable {κ α : Type} [DecidableEq κ]

def get? (entries : List (κ × α)) (key : κ) : Option α :=
  match entries with
  | [] => none
  | (k, v) :: r => if k = key then some v else get? r key

def has (entries : List (κ × α)) (key : κ) : Bool := (get? entries key).isSome

/-- Stores a value. A key that is already there keeps its place. -/
def put (entries : List (κ × α)) (key : κ) (value : α) : List (κ × α) :=
  match entries with
  | [] => [(key, value)]
  | (k, v) :: r => if k = key then (k, value) :: r else (k, v) :: put r key value

/-- Stores all entries of the second mapping, in order. -/
def update (entries more : List (κ × α)) : List (κ × α) :=
  more.foldl (fun acc e => put acc e.1 e.2) entries

/-- The mapping of a list of pairs; of equal keys the last value counts. -/
def ofList (pairs : List (κ × α)) : List (κ × α) := update [] pairs

def erase (entries : List (κ × α)) (key : κ) : List (κ × α) :=
  entries.filter fun e => e.1 ≠ key

/-- The keys, in order. -/
def keys (entries : List (κ × α)) : List κ := entries.map (·.1)

@[simp] theorem get?_put_self (entries : List (κ × α)) (key : κ) (v : α) :
    get? (put entries key v) key = some v := by
  induction entries with
  | nil => simp [put, get?]
  | cons e r ih =>
    obtain ⟨k, w⟩ := e
    by_cases h : k = key <;> simp [put, get?, h, ih]

theorem get?_put_ne (entries : List (κ × α)) {key other : κ} (v : α)
    (h : other ≠ key) : get? (put entries key v) other = get? entries other := by
  induction entries with
  | nil => simp [put, get?, Ne.symm h]
  | cons e r ih =>
    obtain ⟨k, w⟩ := e
    by_cases hk : k = key
    · subst hk; simp [put, get?, Ne.symm h]
    · simp only [put, hk, if_false, get?]
      split
      · rfl
      · exact ih

end Entries

/-- What tells keys apart. -/
inductive KeyIdentity
  | whole (n : Int)
  | instant (micros : Int)
  /-- any other key is told apart by itself -/
  | itself (k : Key)
  deriving DecidableEq, Repr

namespace Key

/-- What a key is told apart by: truth values are numbers, numbers go by their value, and moments
with an offset by the instant. -/
def identity : Key → KeyIdentity
  | bool b => .whole (if b then 1 else 0)
  | int n => .whole n
  | float x =>
      match if x.isWhole then x.truncate? else none with
      | some n => .whole n
      | none => .itself (float x)
  | moment m =>
      match m.instant? with
      | some n => .instant n
      | none => .itself (moment m)
  | k => .itself k

def toValue : Key → Value
  | text s => .text s
  | null => .null
  | bool b => .bool b
  | int n => .int n
  | float x => .float x
  | date d => .date d
  | moment m => .moment m

end Key

namespace Bundle

/-- The value under a key; it may be stored under another one that is the same. -/
def value? (bundle : Bundle) (key : Key) : Option Value :=
  match bundle with
  | [] => none
  | (k, v) :: r => if k.identity = key.identity then some v else value? r key

/-- Stores a value. Of keys that are the same the first one stays. -/
def store (bundle : Bundle) (key : Key) (value : Value) : Bundle :=
  match bundle with
  | [] => [(key, value)]
  | (k, v) :: r => if k.identity = key.identity then (k, value) :: r else (k, v) :: store r key value

end Bundle

namespace Value

/-- The key that a value is, if it can be one. -/
def key? : Value → Option Key
  | text s => some (.text s)
  | null => some .null
  | bool b => some (.bool b)
  | int n => some (.int n)
  | float x => some (.float x)
  | date d => some (.date d)
  | moment m => some (.moment m)
  | _ => none

/-- Whether the value counts as true: it is not null, false, a zero or empty. -/
def truthy : Value → Bool
  | null => false
  | bool b => b
  | int n => n != 0
  | float x =>
      match x with
      | .finite _ m _ => m != 0
      | _ => true
  | decimal d =>
      match d with
      | .finite _ c _ => c != 0
      | _ => true
  | date _ => true
  | moment _ => true
  | text s => s != ""
  | list xs => !xs.isEmpty
  | dict es => !es.isEmpty

/-- What there is to go through: the items of a list, the keys of a mapping, or the characters of
a text. -/
def items? : Value → Option (List Value)
  | list vs => some vs
  | dict es => some (es.map fun e => e.1.toValue)
  | text s => some (s.toList.map fun c => .text (String.singleton c))
  | _ => none

/-- The number that a value is; truth values are numbers. -/
def number? : Value → Option Number
  | int n => some (.int n)
  | float x => some (.float x)
  | bool b => some (.int (if b then 1 else 0))
  | _ => none

def entries? : Value → Option Bundle
  | dict es => some es
  | _ => none

def text? : Value → Option String
  | text s => some s
  | _ => none

/-- Whether the value is null. -/
def isNull : Value → Bool
  | null => true
  | _ => false

end Value

def Key.truthy (k : Key) : Bool := k.toValue.truthy

end Polyglot

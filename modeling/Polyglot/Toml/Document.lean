import Polyglot.Value.Basic

/-!
# TOML documents

A document under construction: its data, and which of its tables may still grow. A table that was
named in a header, or by the front of a dotted key in an earlier section, is not named in a header
again; arrays and inline tables are never changed.
-/
namespace Polyglot.Toml

abbrev KeyPath := List String

/-- A document under construction. -/
structure Document where
  data : Bundle
  /-- the arrays and inline tables, which hold for everything below them -/
  frozen : List KeyPath
  /-- the tables that were named -/
  named : List KeyPath
  /-- the tables that are named when the next section starts -/
  pending : List KeyPath
  deriving Repr

namespace Document

def empty : Document := ⟨[], [], [], []⟩

/-! ## Data -/

/-- Changes the table at a path; missing tables are made. Of an array of tables the last one
counts, if arrays may be entered. -/
def change? (entersArrays : Bool) (es : Bundle) (path : KeyPath)
    (f : Bundle → Option Bundle) : Option Bundle :=
  match path with
  | [] => f es
  | k :: ks =>
      match Entries.get? es (k : Key) with
      | none => (change? entersArrays [] ks f).map fun t => Entries.put es k (.dict t)
      | some (.dict t) =>
          (change? entersArrays t ks f).map fun t => Entries.put es k (.dict t)
      | some (.list vs) =>
          match entersArrays, vs.getLast? with
          | true, some (.dict t) =>
              (change? entersArrays t ks f).map fun t =>
                Entries.put es k (.list (vs.dropLast ++ [.dict t]))
          | _, _ => none
      | some _ => none

/-- Stores a value in a table; the key must be new. -/
def store? (key : String) (v : Value) (es : Bundle) : Option Bundle :=
  if Entries.has es (key : Key) then none else some (Entries.put es key v)

/-- Adds a table to an array of tables, which is made if it is missing. -/
def append? (key : String) (es : Bundle) : Option Bundle :=
  match Entries.get? es (key : Key) with
  | none => some (Entries.put es key (.list [.dict []]))
  | some (.list vs) => some (Entries.put es key (.list (vs ++ [.dict []])))
  | some _ => none

/-! ## Marks -/

/-- Whether a table lies in an array or inline table, or is one. -/
def isFrozen (frozen : List KeyPath) (path : KeyPath) : Bool :=
  frozen.any fun p => p.isPrefixOf path

def freezes : Value → Bool
  | .dict _ => true
  | .list _ => true
  | _ => false

/-- Starts a section: the pending tables count as named. -/
def startSection (d : Document) : Document :=
  { d with named := d.named ++ d.pending, pending := [] }

def openTable? (d : Document) (path : KeyPath) : Option Document :=
  if path ∈ d.named || isFrozen d.frozen path then none
  else
    (change? true d.data path some).map fun es =>
      { d with data := es, named := path :: d.named }

/-- Opens a new table in the array of tables of a header. What was said of the tables below it
does not hold for the new one. -/
def openItem? (d : Document) (path : KeyPath) : Option Document :=
  if isFrozen d.frozen path then none
  else
    (change? true d.data path.dropLast (append? (path.getLast?.getD ""))).map fun es =>
      { d with
        data := es
        frozen := d.frozen.filter fun p => !path.isPrefixOf p
        named := path :: d.named.filter fun p => !path.isPrefixOf p }

/-- The proper beginnings of a dotted key below a header. -/
def fronts (header key : KeyPath) : List KeyPath :=
  (List.range (key.length - 1)).map fun n => header ++ key.take (n + 1)

def set? (d : Document) (header key : KeyPath) (v : Value) : Option Document :=
  let tables := fronts header key
  let table := header ++ key.dropLast
  if tables.any (· ∈ d.named) || isFrozen d.frozen table then none
  else
    (change? true d.data table (store? (key.getLast?.getD "") v)).map fun es =>
      { d with
        data := es
        frozen := if freezes v then (header ++ key) :: d.frozen else d.frozen
        pending := d.pending ++ tables }

end Document

/-- An inline table under construction. -/
structure InlineTable where
  data : Bundle
  frozen : List KeyPath
  deriving Repr

namespace InlineTable

def empty : InlineTable := ⟨[], []⟩

def set? (t : InlineTable) (key : KeyPath) (v : Value) : Option InlineTable :=
  if Document.isFrozen t.frozen key then none
  else
    (Document.change? false t.data key.dropLast
      (Document.store? (key.getLast?.getD "") v)).map fun es =>
        ⟨es, if Document.freezes v then key :: t.frozen else t.frozen⟩

end InlineTable
end Polyglot.Toml

import Polyglot.Text.Blank
import Polyglot.Value.Text

/-!
# Translation bundles

A bundle maps keys to messages, either flat or nested: `common.greeting` finds a message
under that whole key or under `greeting` inside the mapping `common`. Bundles of a
namespace are merged into others with the namespace in front of their keys.
-/
namespace Polyglot

def keyDelimiter : String := ":"

def keyPath (key : String) : List String := (Text.splitOn '.' key.toList).map String.ofList

/-- The name that a key of a namespace gives; an empty key gives none. -/
def Key.name? (k : Key) : Option String := if k.truthy then some k.display else none

/-- The namespace that a key is; null is none. -/
def Key.space? (k : Key) : Option Key := if k = .null then none else some k

namespace Value

/-- The value at the end of a path of keys. -/
def walk? : Value → List String → Option Value
  | v, [] => some v
  | .dict es, k :: ks =>
      match Entries.get? es k with
      | some v => walk? v ks
      | none => none
  | _, _ :: _ => none

end Value

namespace Bundle

/-- The message under a key: a text stored under the whole key, or else one at the end of
the dotted path. -/
def message? (bundle : Bundle) (key : String) : Option String :=
  match Entries.get? bundle key with
  | some (.text s) => some s
  | _ => ((Value.dict bundle).walk? (keyPath key)).bind Value.text?

/-- A key with its namespace in front; there may be none. -/
def namespacedKey (space : Option String) (key : String) : String :=
  match space with
  | none => key
  | some n => if n = "" then key else n ++ keyDelimiter ++ key

/-- The bundle with a namespace in front of every key; of keys that become equal the last one
counts. -/
def inNamespace (space : Option String) (bundle : Bundle) : Bundle :=
  match space.filter (· ≠ "") with
  | none => bundle
  | some n => Entries.ofList (bundle.map fun e => (.text (namespacedKey n e.1.display), e.2))

/-- The texts of the keys, in order. -/
def names (bundle : Bundle) : List String := bundle.map fun e => e.1.display

/-! ## Bundles given with the program -/

def coversLanguage (data : Option Bundle) (language : Key) : Bool :=
  match data with
  | none => false
  | some es =>
      match Entries.get? es language with
      | some (.dict _) => true
      | _ => false

/-- The bundle of a language out of given data. The data maps languages to bundles, or it
is the bundle of the default language alone. -/
def select (data : Option Bundle) (language fallback : Key) : Option Bundle :=
  match data with
  | none => none
  | some [] => none
  | some es =>
      match Entries.get? es language with
      | some (.dict b) => some b
      | _ =>
          if coversLanguage (some es) fallback then none
          else if language = fallback then some es
          else none

end Bundle
end Polyglot

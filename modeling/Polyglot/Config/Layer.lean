import Polyglot.Bundle.Basic

/-!
# Configuration layers

Configuration data is a tree of mappings. A layer is merged over another one: where both hold
a mapping the mappings are merged, elsewhere the value of the upper layer counts, null
included. A dotted key names a path into the tree.
-/
namespace Polyglot.Config

mutual

/-- Merges the entries of a layer, one by one, over another one. -/
def merge (base : Bundle) : Bundle → Bundle
  | [] => base
  | (k, v) :: r => merge (base.store k (mergeValue (base.value? k) v)) r

/-- What a value becomes over the value below it, if there is one. -/
def mergeValue (below : Option Value) : Value → Value
  | .dict es =>
      match below with
      | some (.dict base) => .dict (merge base es)
      | _ => .dict es
  | v => v

end

/-- The value at the end of a path. Null counts as nothing, on the way too. -/
def valueAt? (v : Value) : List String → Option Value
  | [] => some v
  | k :: ks =>
      match v with
      | .dict es =>
          match Entries.get? es k with
          | none => none
          | some .null => none
          | some w => valueAt? w ks
      | _ => none

def find? (data : Bundle) (key : String) : Option Value := valueAt? (.dict data) (keyPath key)

/-- The mapping under a dotted key; there it is empty if there is none. -/
def sectionAt (data : Bundle) (key : String) : Bundle :=
  match find? data key with
  | some (.dict es) => es
  | _ => []

end Polyglot.Config

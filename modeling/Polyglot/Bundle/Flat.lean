import Polyglot.Bundle.Basic

/-!
# Flat bundles

A nested bundle has a flat form, in which every text stands under the whole dotted key that its
path gives. Only texts are kept: what else a path leads to is no message.
-/
namespace Polyglot

def pathKey (path : List String) : String := ".".intercalate path

mutual

/-- The texts in a value, each with the path that leads to it. -/
def Value.texts : Value → List (List String × String)
  | .text s => [([], s)]
  | .dict es => Bundle.texts es
  | _ => []

/-- The texts in the entries of a mapping. No path goes through a key that is no text. -/
def Bundle.texts : Bundle → List (List String × String)
  | [] => []
  | (.text name, v) :: r => (v.texts.map fun e => (name :: e.1, e.2)) ++ Bundle.texts r
  | (_, _) :: r => Bundle.texts r

end

def Bundle.flat (b : Bundle) : Bundle := b.texts.map fun e => (.text (pathKey e.1), .text e.2)

end Polyglot

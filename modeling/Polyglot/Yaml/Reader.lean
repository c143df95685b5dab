import Polyglot.Yaml.Node
import Polyglot.Yaml.Scalar

/-!
# YAML reader

The values of documents. A collection is built before the collections in it, so that of several
faults the one nearest to the top of the document counts.
-/
namespace Polyglot.Yaml

/-- A value, or a fault with the depth at which it shows. -/
abbrev Built := Except (Nat × Fault)

namespace Built

/-- Puts two results together. Of two faults the one nearer to the top counts, and the first one
of two at the same depth. -/
def and {α β γ : Type} (f : α → β → γ) (a : Built α) (b : Built β) : Built γ :=
  match a, b with
  | .ok x, .ok y => .ok (f x y)
  | .error e, .ok _ => .error e
  | .ok _, .error e => .error e
  | .error d, .error e => .error (if e.1 < d.1 then e else d)

def all {α β : Type} (f : α → Built β) : List α → Built (List β)
  | [] => .ok []
  | a :: r => and List.cons (f a) (all f r)

/-- The result of something that is done at a depth. -/
def at_ {α : Type} (depth : Nat) (r : Except Fault α) : Built α := r.mapError fun e => (depth, e)

end Built

namespace Node

/-- The node as a text: of a mapping the value of its `=` key counts. -/
def asText (fuel : Nat) : Node → Except Fault (List Char)
  | scalar _ cs => .ok cs
  | sequence .. => .error .construction
  | mapping _ es =>
      match fuel, es.find? fun e => e.1.tag = .value with
      | fuel + 1, some e => asText fuel e.2
      | _, _ => .error .construction

def withTag (t : Tag) : Node → Node
  | scalar _ cs => scalar t cs
  | sequence _ ns => sequence t ns
  | mapping _ es => mapping t es

/-- The entries of a mapping with those that it takes in from others. Entries of its own come last
and so replace others; of several mappings in a list the first one counts. -/
def merged (fuel : Nat) (es : List (Node × Node)) : Except Fault (List (Node × Node)) :=
  match fuel with
  | 0 => .error .construction
  | fuel + 1 => do
      let taken ← (es.filter fun e => e.1.tag = .merge).mapM fun e =>
        match e.2 with
        | .mapping _ more => merged fuel more
        | .sequence _ ns => do
            let lists ← ns.mapM fun n =>
              match n with
              | .mapping _ more => merged fuel more
              | _ => .error .construction
            .ok lists.reverse.flatten
        | .scalar .. => .error .construction
      let own := (es.filter fun e => e.1.tag ≠ .merge).map fun e =>
        (if e.1.tag = .value then e.1.withTag .text else e.1, e.2)
      .ok (taken.flatten ++ own)

/-- The key that a node stands for; collections are no keys. -/
def toKey (build : Node → Built Value) (depth : Nat) (n : Node) : Built Key :=
  if n.tag.isCollection then .error (depth, .construction)
  else do
    match (← build n).key? with
    | some k => .ok k
    | none => .error (depth, .construction)

def toEntries (build : Node → Built Value) (depth : Nat) (es : List (Node × Node)) :
    Built Bundle :=
  (Built.all (fun e => Built.and Prod.mk (toKey build depth e.1) (build e.2)) es).map
    fun pairs => pairs.foldl (fun acc e => Bundle.store acc e.1 e.2) []

def toPair (build : Node → Built Value) (depth : Nat) : Node → Built Value
  | mapping _ [e] => Built.and (fun k v => .list [k, v]) (build e.1) (build e.2)
  | _ => .error (depth, .construction)

/-- The keys of a set, in their order. -/
def setItems (es : Bundle) : List Value :=
  (es.map (·.1)).mergeSort (fun a b => decide (a.display ≤ b.display)) |>.map Key.toValue

/-- The value of a node; the depth counts the collections around it. -/
def build (fuel depth : Nat) (n : Node) : Built Value :=
  match fuel with
  | 0 => .error (depth, .construction)
  | fuel + 1 =>
      let below := depth + 1
      let entries (es : List (Node × Node)) : Built Bundle := do
        toEntries (build fuel below) below (← Built.at_ below (merged (fuel + 1) es))
      match n.tag, n with
      | .sequence, .sequence _ ns => (Built.all (build fuel below) ns).map .list
      | .mapping, .mapping _ es => (entries es).map .dict
      | .set, .mapping _ es => (entries es).map fun found => .list (setItems found)
      | .pairs, .sequence _ ns => (Built.all (toPair (build fuel below) below) ns).map .list
      | t, n =>
          if t.isCollection then .error (below, .construction)
          else if t ∈ [.merge, .value, .unknown] then .error (depth, .construction)
          else Built.at_ depth ((n.asText (fuel + 1)).bind (scalarOf t))

end Node

/-- Reads a document; a text without one stands for null. -/
def read (s : String) : Except Fault Value :=
  let cs := s.toList
  if !cs.all isPrintable then .error .unprintable
  else do
    match ← Node.ofText? cs with
    | none => .ok .null
    | some n => (n.build (cs.length + 2) 0).mapError (·.2)

end Polyglot.Yaml

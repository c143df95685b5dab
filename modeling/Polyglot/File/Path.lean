import Polyglot.Text.Blank

/-!
# File paths

A path is a list of parts under the root or under the current directory. Empty parts and
parts that are a single point do not count. The suffix of a name starts at its last point,
which must be neither its first nor its last character.
-/
namespace Polyglot

/-- A path of a file or directory. -/
structure Path where
  absolute : Bool
  parts : List String
  deriving DecidableEq, Repr

namespace Path

def partsOf (s : String) : List String :=
  ((Text.splitOn '/' s.toList).map String.ofList).filter fun p => p ≠ "" ∧ p ≠ "."

def ofString (s : String) : Path := ⟨s.toList.head? == some '/', partsOf s⟩

def text (p : Path) : String :=
  if p.absolute then "/" ++ String.intercalate "/" p.parts
  else if p.parts.isEmpty then "."
  else String.intercalate "/" p.parts

/-- A path below a directory; a path from the root stands for itself. -/
def join (p : Path) (s : String) : Path :=
  let q := ofString s
  if q.absolute then q else ⟨p.absolute, p.parts ++ q.parts⟩

/-- The last part; the root and the current directory have an empty name. -/
def name (p : Path) : String := p.parts.getLast?.getD ""

def parent (p : Path) : Path := ⟨p.absolute, p.parts.dropLast⟩

/-- The path with another last part, if it has one. -/
def withName? (p : Path) (name : String) : Option Path :=
  if p.parts.isEmpty then none else some ⟨p.absolute, p.parts.dropLast ++ [name]⟩

/-- Splits a name before its suffix. -/
def splitName (name : String) : String × String :=
  let cs := name.toList.reverse
  let tail := cs.takeWhile (· ≠ '.')
  match cs.drop tail.length with
  | '.' :: front =>
      if tail.isEmpty || front.isEmpty then (name, "")
      else (String.ofList front.reverse, String.ofList ('.' :: tail.reverse))
  | _ => (name, "")

def stem (p : Path) : String := (splitName p.name).1

def suffix (p : Path) : String := (splitName p.name).2

end Path
end Polyglot

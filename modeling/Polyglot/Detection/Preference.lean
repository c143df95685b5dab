import Polyglot.Number.Literal

/-!
# Preferred languages

Reads a header that lists languages with their qualities, such as `en-US,en;q=0.9`. A part
without a quality has the quality one. Parts with a quality that is malformed or not above
zero, and the wildcard, do not count. Higher qualities come first, equal ones in the order of
the header.
-/
namespace Polyglot.Preference

open Text

/-- A language with its quality. -/
structure Weighted where
  tag : String
  quality : Binary64
  deriving DecidableEq, Repr

/-- Whether a language is to come before another one. -/
def before (a b : Weighted) : Bool := Binary64.compare? b.quality a.quality == some .lt

/-! ## Order -/

/-- Where an item is to be inserted between two positions of a sorted array: by halving, at
the last place that no item to the right of which must follow. -/
def position (sorted : Array Weighted) (item : Weighted) (low high : Nat) : Nat :=
  if low < high then
    let middle := (low + high) / 2
    if (sorted[middle]?.map (before item)).getD false then position sorted item low middle
    else position sorted item (middle + 1) high
  else low
termination_by high - low

def insert (sorted : List Weighted) (item : Weighted) : List Weighted :=
  let k := position sorted.toArray item 0 sorted.length
  sorted.take k ++ item :: sorted.drop k

/-- Cuts off the items at the front that are each to come before the one in front. -/
def cutFalling (last : Weighted) : List Weighted → List Weighted × List Weighted
  | [] => ([], [])
  | x :: r =>
      if before x last then let (a, b) := cutFalling x r; (x :: a, b) else ([], x :: r)

/-- Cuts off the items at the front none of which is to come before the one in front. -/
def cutRising (last : Weighted) : List Weighted → List Weighted × List Weighted
  | [] => ([], [])
  | x :: r =>
      if before x last then ([], x :: r) else let (a, b) := cutRising x r; (x :: a, b)

/-- Sorts languages: a run at the front that is in order, or in reverse order, is kept, and
the others are inserted into it one by one. -/
def sort : List Weighted → List Weighted
  | [] => []
  | [x] => [x]
  | x :: y :: r =>
      if before y x then
        let (run, rest) := cutFalling y r
        rest.foldl insert (run.reverse ++ [y, x])
      else
        let (run, rest) := cutRising y r
        rest.foldl insert (x :: y :: run)

/-! ## Header -/

/-- The quality in the parameters of a part; parameters of another kind do not count. -/
def quality? (params : List Char) : Option Binary64 :=
  match trim params with
  | c :: '=' :: r =>
      if c = 'q' ∨ c = 'Q' then Literal.binary64? (trim r) else some (.ofRatio false 1 1)
  | _ => some (.ofRatio false 1 1)

/-- Whether a quality is at most zero. -/
def isNone (q : Binary64) : Bool :=
  match Binary64.compare? q .zero with
  | some .gt => false
  | some _ => true
  | none => false

/-- The language of a part of the header, if it counts. -/
def part? (cs : List Char) : Option Weighted :=
  let (tag, params) := cutAt ';' (trim cs)
  let tag := trim tag
  match quality? (params.getD []) with
  | none => none
  | some q => if tag.isEmpty || tag = ['*'] || isNone q then none else some ⟨String.ofList tag, q⟩

/-- The languages of a header, with their qualities, in the order of the header. -/
def parts (header : String) : List Weighted := (splitOn ',' header.toList).filterMap part?

/-- The languages of a header, the preferred ones first. -/
def parse (header : String) : List String := (sort (parts header)).map (·.tag)

end Polyglot.Preference

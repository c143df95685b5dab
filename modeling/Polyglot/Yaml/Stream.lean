import Polyglot.Yaml.Handle
import Polyglot.Yaml.Plain

/-!
# Streams of tokens

Takes a document apart into tokens, one at a time. That something is the key of a mapping shows
only at the colon after it; a token that may turn out to start a key waits until the colon comes or
can no longer come. Blocks end where the indentation goes back.
-/
namespace Polyglot.Yaml

/-- A place where a key may have started. -/
structure PossibleKey where
  /-- how many collections in brackets are open -/
  depth : Int
  /-- the number of the token that starts the key -/
  number : Nat
  /-- whether nothing but a key may stand there -/
  isRequired : Bool
  origin : Cursor
  deriving Repr

/-- A document that is being taken apart. -/
structure Stream where
  cursor : Cursor
  /-- the tokens that were found and not taken -/
  queue : List Token
  /-- how many tokens were taken -/
  taken : Nat
  isDone : Bool
  /-- how many collections in brackets are open; after a superfluous bracket it is negative -/
  depth : Int
  /-- the indentation of the block, one less than zero outside of all blocks -/
  indent : Int
  /-- the indentations of the blocks around -/
  indents : List Int
  /-- whether a key may start here -/
  allowsKey : Bool
  possible : List PossibleKey
  deriving Repr

namespace Stream

def ofText (cs : List Char) : Stream :=
  ⟨.start cs, [], 1, false, 0, -1, [], true, []⟩

/-- Whether a collection in brackets is open. -/
def inFlow (s : Stream) : Bool := s.depth != 0

def column (s : Stream) : Int := Int.ofNat s.cursor.column

def push (s : Stream) (t : Token) : Stream := { s with queue := s.queue ++ [t] }

/-! ## Possible keys -/

/-- Whether a key that may have started can no longer end: a key has one line and at most 1024
characters. -/
def isStale (c : Cursor) (k : PossibleKey) : Bool :=
  k.origin.line != c.line || decide (1024 < c.index - k.origin.index)

/-- Forgets the keys that can no longer end. -/
def dropStale (s : Stream) : Except Fault Stream :=
  if s.possible.any fun k => isStale s.cursor k && k.isRequired then .error .token
  else .ok { s with possible := s.possible.filter fun k => !isStale s.cursor k }

/-- Forgets the key that may have started in the same collection. -/
def dropKey (s : Stream) : Except Fault Stream :=
  if s.possible.any fun k => k.depth == s.depth && k.isRequired then .error .token
  else .ok { s with possible := s.possible.filter fun k => k.depth != s.depth }

/-- Notes that a key may start here. -/
def noteKey (s : Stream) : Except Fault Stream :=
  if !s.allowsKey then .ok s
  else do
    let s ← s.dropKey
    let k : PossibleKey :=
      ⟨s.depth, s.taken + s.queue.length, !s.inFlow && s.indent == s.column, s.cursor⟩
    .ok { s with possible := s.possible ++ [k] }

/-- Whether the token at the front waits for a colon, or there is none. -/
def needsMore (s : Stream) : Bool :=
  !s.isDone && (s.queue.isEmpty || s.possible.any fun k => k.number == s.taken)

/-! ## Blocks -/

/-- Ends the blocks that are indented further than a column. -/
def endBlocks (s : Stream) (column : Int) : Stream :=
  if s.inFlow then s
  else
    let stack := s.indent :: s.indents
    let ended := (stack.takeWhile fun n => decide (column < n)).length
    let left := stack.drop ended
    { s with
      queue := s.queue ++ List.replicate ended .blockEnd
      indent := left.head?.getD (-1)
      indents := left.drop 1 }

/-- Starts a block at a column, unless one started there before; its token goes to a place in the
queue. -/
def startBlock (s : Stream) (column : Int) (place : Nat) (t : Token) : Stream :=
  if s.indent < column then
    { s with
      queue := s.queue.insertIdx place t
      indent := column
      indents := s.indent :: s.indents }
  else s

/-- Starts a block here, where a key may start. -/
def startBlockHere (s : Stream) (t : Token) : Except Fault Stream :=
  if s.inFlow then .ok s
  else if s.allowsKey then .ok (s.startBlock s.column s.queue.length t)
  else .error .token

/-! ## Tokens -/

/-- Takes one or more characters that make a token of their own. -/
def single (s : Stream) (t : Token) (width : Nat) : Stream :=
  { s.push t with cursor := s.cursor.skip width }

def word (s : Stream) (read : Cursor → Except Fault (Token × Cursor)) : Except Fault Stream := do
  let s ← s.noteKey
  let (t, c) ← read s.cursor
  .ok { s.push t with cursor := c, allowsKey := false }

def finish (s : Stream) : Except Fault Stream := do
  let s ← (s.endBlocks (-1)).dropKey
  .ok { s.push .streamEnd with allowsKey := false, possible := [], isDone := true }

/-- A token at the beginning of a line, before which all blocks end. -/
def atMargin (s : Stream) (read : Cursor → Except Fault (Token × Cursor)) :
    Except Fault Stream := do
  let s ← (s.endBlocks (-1)).dropKey
  let (t, c) ← read s.cursor
  .ok { s.push t with cursor := c, allowsKey := false }

/-- The beginning of a collection in brackets. -/
def openFlow (s : Stream) (t : Token) : Except Fault Stream := do
  let s ← s.noteKey
  .ok { s.single t 1 with depth := s.depth + 1, allowsKey := true }

/-- The end of a collection in brackets. -/
def closeFlow (s : Stream) (t : Token) : Except Fault Stream := do
  let s ← s.dropKey
  .ok { s.single t 1 with depth := s.depth - 1, allowsKey := false }

/-- A comma between two items. -/
def flowEntry (s : Stream) : Except Fault Stream := do
  let s ← s.dropKey
  .ok { s.single .flowEntry 1 with allowsKey := true }

def blockEntry (s : Stream) : Except Fault Stream := do
  let s ← s.startBlockHere .blockSequence
  let s ← ({ s with allowsKey := true } : Stream).dropKey
  .ok (s.single .blockEntry 1)

def key (s : Stream) : Except Fault Stream := do
  let s ← s.startBlockHere .blockMapping
  let s ← ({ s with allowsKey := !s.inFlow } : Stream).dropKey
  .ok (s.single .key 1)

/-- The colon before a value. A key that may have started in the same collection did so. -/
def value (s : Stream) : Except Fault Stream := do
  match s.possible.find? fun k => k.depth == s.depth with
  | some k =>
      let place := k.number - s.taken
      let s : Stream :=
        { s with
          queue := s.queue.insertIdx place .key
          possible := s.possible.filter fun k => k.depth != s.depth
          allowsKey := false }
      let s :=
        if s.inFlow then s else s.startBlock (Int.ofNat k.origin.column) place .blockMapping
      .ok (s.single .value 1)
  | none =>
      let s ← s.startBlockHere .blockMapping
      let s ← ({ s with allowsKey := !s.inFlow } : Stream).dropKey
      .ok (s.single .value 1)

def blockScalar (s : Stream) (isFolded : Bool) : Except Fault Stream := do
  let s ← ({ s with allowsKey := true } : Stream).dropKey
  let (text, c) ← Yaml.blockScalar isFolded s.indent s.cursor.next
  .ok { s.push (.scalar false text) with cursor := c }

/-- A scalar without quotes. -/
def plain (s : Stream) : Except Fault Stream := do
  let s ← s.noteKey
  let p := Yaml.plain s.inFlow (s.indent + 1) s.cursor
  .ok { s.push (.scalar true p.text) with cursor := p.after, allowsKey := p.allowsKey }

/-- Reads a token that starts with a character of its own. -/
def marked? (s : Stream) : Option (Except Fault Stream) :=
  let c := s.cursor
  let readAs {α : Type} (read : Cursor → Except Fault (α × Cursor)) (token : α → Token)
      (c : Cursor) : Except Fault (Token × Cursor) :=
    (read c.next).map fun (a, c) => (token a, c)
  match c.head with
  | '[' => some (s.openFlow .flowSequence)
  | '\x7b' => some (s.openFlow .flowMapping)
  | ']' => some (s.closeFlow .flowSequenceEnd)
  | '\x7d' => some (s.closeFlow .flowMappingEnd)
  | ',' => some s.flowEntry
  | '-' => if isGap (c.peek 1) then some s.blockEntry else none
  | '?' => if s.inFlow || isGap (c.peek 1) then some s.key else none
  | ':' => if s.inFlow || isGap (c.peek 1) then some s.value else none
  | '*' => some (s.word (readAs anchorName .alias))
  | '&' => some (s.word (readAs anchorName .anchor))
  | '!' => some (s.word fun c => (tagName c).map fun (t, c) => (.tag t.1 t.2, c))
  | '|' => if s.inFlow then none else some (s.blockScalar false)
  | '>' => if s.inFlow then none else some (s.blockScalar true)
  | '\'' => some (s.word (readAs (quoted false) (.scalar false)))
  | '"' => some (s.word (readAs (quoted true) (.scalar false)))
  | _ => none

/-- Reads a token that starts at the beginning of a line. -/
def marginal? (s : Stream) : Option (Except Fault Stream) :=
  let c := s.cursor
  if c.column ≠ 0 then none
  else if c.head = '%' then
    some (s.atMargin fun c => (directive c.next).map fun (d, c) => (.directive d, c))
  else if c.isMarker '-' then some (s.atMargin fun c => .ok (.documentStart, c.skip 3))
  else if c.isMarker '.' then some (s.atMargin fun c => .ok (.documentEnd, c.skip 3))
  else none

/-- Skips blanks, comments and ends of lines; every step takes a line. -/
def skipGapUpTo (fuel : Nat) (s : Stream) : Stream :=
  match fuel with
  | 0 => s
  | fuel + 1 =>
      let c := s.cursor.skipSpaces.skipComment
      match c.lineBreak? with
      | none => { s with cursor := c }
      | some (_, c) =>
          skipGapUpTo fuel { s with cursor := c, allowsKey := s.allowsKey || !s.inFlow }

/-- Skips blanks, comments and ends of lines. -/
def skipGap (s : Stream) : Stream :=
  let c := s.cursor
  let c := if c.index = 0 ∧ c.head = byteOrderMark then c.next else c
  skipGapUpTo (c.rest.length + 1) { s with cursor := c }

/-- Finds the next token. -/
def advance (s : Stream) : Except Fault Stream := do
  let s ← s.skipGap.dropStale
  let s := s.endBlocks s.column
  if s.cursor.rest.isEmpty then s.finish
  else
    match s.marginal? <|> s.marked? with
    | some found => found
    | none => if startsPlain s.inFlow s.cursor then s.plain else .error .token

/-- Finds tokens until the one at the front is settled; every step takes characters. -/
def settleUpTo (fuel : Nat) (s : Stream) : Except Fault Stream :=
  match fuel with
  | 0 => .ok s
  | fuel + 1 => do
      let s ← if s.isDone || s.queue.isEmpty then .ok s else s.dropStale
      if s.needsMore then settleUpTo fuel (← s.advance) else .ok s

/-- Finds tokens until the one at the front is settled. -/
def settle (s : Stream) : Except Fault Stream := settleUpTo (s.cursor.rest.length + 2) s

/-- Takes the token at the front. -/
def drop (s : Stream) : Stream := { s with queue := s.queue.drop 1, taken := s.taken + 1 }

end Stream
end Polyglot.Yaml

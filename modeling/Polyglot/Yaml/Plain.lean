import Polyglot.Yaml.Quoted

/-!
# Plain YAML scalars

A scalar without quotes. It ends before a colon that separates a key from its value, before a
comment and, inside of brackets and braces, before the characters that have a meaning there. It may
go on over several lines that are indented enough.
-/
namespace Polyglot.Yaml

/-- Whether the character has a meaning inside of brackets and braces. -/
def isFlowMark (c : Char) : Bool := c == ',' || c == '[' || c == ']' || c == '\x7b' || c == '\x7d'

/-- Whether a plain scalar ends before a place. -/
def endsWord (inFlow : Bool) (c : Cursor) : Bool :=
  let ch := c.head
  isGap ch ||
    (ch == ':' && (isGap (c.peek 1) || (inFlow && isFlowMark (c.peek 1)))) ||
    (inFlow && (isFlowMark ch || ch == '?'))

/-- Cuts off the words of a plain scalar up to a blank; every step takes a character. -/
def cutWord (fuel : Nat) (inFlow : Bool) (c : Cursor) : List Char × Cursor :=
  match fuel with
  | 0 => ([], c)
  | fuel + 1 =>
      if endsWord inFlow c then ([], c)
      else
        let (s, r) := cutWord fuel inFlow c.next
        (c.head :: s, r)

/-- Cuts off the ends of empty lines and the spaces between them; `none` when a document ends or
starts there. -/
def cutBreaks (fuel : Nat) (c : Cursor) : Option (List Char) × Cursor :=
  match fuel with
  | 0 => (some [], c)
  | fuel + 1 =>
      if c.isDocumentMarker then (none, c)
      else
        let c := c.skipSpaces
        match c.lineBreak? with
        | none => (some [], c)
        | some (b, c) =>
            let (bs, c) := cutBreaks fuel c
            (bs.map (b :: ·), c)

/-- Cuts off what separates two words, and tells whether it holds the end of a line. Nothing
separates them when a document ends or starts there. -/
def cutPlainGap (c : Cursor) : List Char × Bool × Cursor :=
  let (blanks, c) := c.cut (· = ' ')
  match c.lineBreak? with
  | none => (blanks, false, c)
  | some (b, c) =>
      let (bs, c) := cutBreaks (c.rest.length + 1) c
      (bs.elim [] (foldBreaks b), true, c)

/-- A plain scalar that was read. -/
structure PlainScalar where
  text : List Char
  /-- whether a key may follow, because a line has ended -/
  allowsKey : Bool
  after : Cursor
  deriving Repr

/-- Reads a plain scalar whose lines are indented by at least `indent`; every step takes a word. -/
def plainUpTo (fuel : Nat) (inFlow : Bool) (indent : Int) (c : Cursor) : PlainScalar :=
  match fuel with
  | 0 => ⟨[], false, c⟩
  | fuel + 1 =>
      let (word, c) := cutWord (c.rest.length + 1) inFlow c
      let (gap, isLine, c) := cutPlainGap c
      let isOver := gap.isEmpty || c.head = '#' || (!inFlow && decide (Int.ofNat c.column < indent))
      if isOver || endsWord inFlow c then ⟨word, isLine, c⟩
      else
        let more := plainUpTo fuel inFlow indent c
        { more with text := word ++ gap ++ more.text }

def plain (inFlow : Bool) (indent : Int) (c : Cursor) : PlainScalar :=
  plainUpTo (c.rest.length + 1) inFlow indent c

/-- Whether a plain scalar may start here. -/
def startsPlain (inFlow : Bool) (c : Cursor) : Bool :=
  let ch := c.head
  if isGap ch then false
  else if ch = '-' then !isGap (c.peek 1)
  else if ch = '?' ∨ ch = ':' then !inFlow && !isGap (c.peek 1)
  else !(isFlowMark ch || "#&*!|>'\"%@\x60".toList.contains ch)

end Polyglot.Yaml

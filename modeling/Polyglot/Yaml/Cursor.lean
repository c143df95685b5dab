/-!
# Places in a document

A cursor is a place in a document: what follows it, and how many characters, lines and columns lie
before it. The end of a document reads as the null character, which no document holds.
-/
namespace Polyglot.Yaml

/-! ## Classes of characters -/

def endMark : Char := Char.ofNat 0

def isBreak (c : Char) : Bool :=
  c == '\n' || c == '\r' || c.toNat == 0x85 || c.toNat == 0x2028 || c.toNat == 0x2029

def isSpace (c : Char) : Bool := c == ' ' || c == '\t'

def isLineEnd (c : Char) : Bool := isBreak c || c == endMark

def isGap (c : Char) : Bool := isSpace c || isLineEnd c

/-- Whether a word ends here; a tab does not end it. -/
def isGapButTab (c : Char) : Bool := c == ' ' || isLineEnd c

/-- Whether a document may hold a character. -/
def isPrintable (c : Char) : Bool :=
  let n := c.toNat
  n == 9 || n == 10 || n == 13 || (32 ≤ n && n ≤ 126) || n == 0x85 ||
    (0xA0 ≤ n && n ≤ 0xFFFD) || 0x10000 ≤ n

/-- The mark of the order of bytes, which has no width. -/
def byteOrderMark : Char := Char.ofNat 0xFEFF

/-- Whether the character may stand in the name of an anchor or a directive. -/
def isWordChar (c : Char) : Bool := c.isAlphanum || c == '-' || c == '_'

/-! ## Cursors -/

/-- A place in a document. -/
structure Cursor where
  rest : List Char
  index : Nat
  line : Nat
  column : Nat
  deriving Repr

namespace Cursor

def start (cs : List Char) : Cursor := ⟨cs, 0, 0, 0⟩

/-- The character that follows after some others. -/
def peek (c : Cursor) (offset : Nat) : Char := c.rest.getD offset endMark

def head (c : Cursor) : Char := c.peek 0

/-- The place after the next character. -/
def next (c : Cursor) : Cursor :=
  match c.rest with
  | [] => c
  | ch :: r =>
      if isBreak ch then ⟨r, c.index + 1, c.line + 1, 0⟩
      else ⟨r, c.index + 1, c.line, if ch = byteOrderMark then c.column else c.column + 1⟩

/-- The place after some characters. -/
def skip (c : Cursor) : Nat → Cursor
  | 0 => c
  | n + 1 => c.next.skip n

def cut (c : Cursor) (p : Char → Bool) : List Char × Cursor :=
  let cs := c.rest.takeWhile p
  (cs, c.skip cs.length)

def skipSpaces (c : Cursor) : Cursor := (c.cut (· = ' ')).2

def skipLine (c : Cursor) : Cursor := (c.cut fun ch => !isBreak ch).2

def skipComment (c : Cursor) : Cursor := if c.head = '#' then c.skipLine else c

/-- The character that the end of a line stands for. -/
def breakText (ch : Char) : Char := if ch.toNat = 0x2028 ∨ ch.toNat = 0x2029 then ch else '\n'

/-- Takes the end of a line, if the line ends here. -/
def lineBreak? (c : Cursor) : Option (Char × Cursor) :=
  if isBreak c.head then some (breakText c.head, c.next) else none

def skipBreak (c : Cursor) : Cursor := if isBreak c.head then c.next else c

/-- Whether three characters, and nothing else in their word, follow. -/
def isMarker (c : Cursor) (mark : Char) : Bool :=
  c.rest.take 3 == [mark, mark, mark] && isGap (c.peek 3)

/-- Whether the beginning or the end of a document is marked here. -/
def isDocumentMarker (c : Cursor) : Bool := c.isMarker '-' || c.isMarker '.'

end Cursor
end Polyglot.Yaml

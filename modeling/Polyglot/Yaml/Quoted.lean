import Polyglot.Number.Radix
import Polyglot.Yaml.Cursor
import Polyglot.Yaml.Token

/-!
# Quoted YAML scalars

A scalar in quotes may go on over several lines: a single end of line stands for a space, of
several the first one does not count. In double quotes a backslash starts an escape, in single
ones a quote is written twice.
-/
namespace Polyglot.Yaml

/-- The character that a letter after a backslash stands for. -/
def escape? (c : Char) : Option Char :=
  let table : List (Char × Nat) :=
    [('0', 0), ('a', 7), ('b', 8), ('t', 9), ('\t', 9), ('n', 10), ('v', 11), ('f', 12),
      ('r', 13), ('e', 27), (' ', 32), ('"', 34), ('\\', 92), ('/', 47), ('N', 0x85),
      ('_', 0xA0), ('L', 0x2028), ('P', 0x2029)]
  (table.find? fun e => e.1 = c).map fun e => Char.ofNat e.2

/-- How many hexadecimal digits follow a letter after a backslash. -/
def escapeWidth? : Char → Option Nat
  | 'x' => some 2
  | 'u' => some 4
  | 'U' => some 8
  | _ => none

def character (n : Nat) : Except Fault Char :=
  if n < 0x110000 then .ok (Char.ofNat n)
  else if n < 0x80000000 then .error (.value "chr() arg not in range(0x110000)")
  else .error .character

/-- Reads the ends of empty lines; every step takes one. -/
def emptyLines (fuel : Nat) (c : Cursor) : Except Fault (List Char × Cursor) :=
  match fuel with
  | 0 => .error .token
  | fuel + 1 =>
      if c.isDocumentMarker then .error .token
      else
        let c := (c.cut isSpace).2
        match c.lineBreak? with
        | none => .ok ([], c)
        | some (b, c) => (emptyLines fuel c).map fun (bs, c) => (b :: bs, c)

/-- What the ends of lines between two words stand for. -/
def foldBreaks (first : Char) (more : List Char) : List Char :=
  if first ≠ '\n' then first :: more else if more.isEmpty then [' '] else more

/-- Reads an escape after its backslash. -/
def escape (c : Cursor) : Except Fault (List Char × Cursor) :=
  match escape? c.head, escapeWidth? c.head, c.lineBreak? with
  | some d, _, _ => .ok ([d], c.next)
  | none, some n, _ =>
      let ds := c.next.rest.take n
      if ds.length = n ∧ ds.all (Radix.isDigit 16) then
        (character (Radix.toNat 16 ds)).map fun d => ([d], c.next.skip n)
      else .error .token
  | none, none, some (_, c) => emptyLines (c.rest.length + 1) c
  | none, none, none => .error .token

/-- Reads the blanks between two words, which may be the ends of lines. -/
def quotedGap (c : Cursor) : Except Fault (List Char × Cursor) :=
  let (blanks, c) := c.cut isSpace
  match c.lineBreak? with
  | none => .ok (blanks, c)
  | some (b, c) => do
      let (bs, c) ← emptyLines (c.rest.length + 1) c
      .ok (foldBreaks b bs, c)

/-- Reads what comes next between quotes; `none` stands for the closing quote. -/
def quotedPart (isDouble : Bool) (c : Cursor) : Except Fault (Option (List Char) × Cursor) :=
  let found (r : Except Fault (List Char × Cursor)) : Except Fault (Option (List Char) × Cursor) :=
    r.map fun (s, c) => (some s, c)
  let ch := c.head
  if c.rest.isEmpty then .error .token
  else if isSpace ch || isBreak ch then found (quotedGap c)
  else if isDouble && ch == '"' then .ok (none, c.next)
  else if isDouble && ch == '\\' then found (escape c.next)
  else if !isDouble && ch == '\'' then
    .ok (if c.peek 1 = '\'' then (some [ch], c.skip 2) else (none, c.next))
  else .ok (some [ch], c.next)

/-- Reads up to the closing quote; every step takes a character. -/
def quotedUpTo (fuel : Nat) (isDouble : Bool) (c : Cursor) : Except Fault (List Char × Cursor) :=
  match fuel with
  | 0 => .error .token
  | fuel + 1 => do
      match ← quotedPart isDouble c with
      | (none, c) => .ok ([], c)
      | (some front, c) => (quotedUpTo fuel isDouble c).map fun (s, c) => (front ++ s, c)

/-- Reads a quoted scalar after its opening quote. -/
def quoted (isDouble : Bool) (c : Cursor) : Except Fault (List Char × Cursor) :=
  quotedUpTo (c.rest.length + 1) isDouble c

end Polyglot.Yaml

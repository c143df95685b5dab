import Polyglot.Yaml.Quoted

/-!
# YAML scalars made of lines

A scalar after a bar keeps the ends of its lines, one after a greater-than sign folds them. The
indentation of the first line, or a digit after the mark, tells how far its lines are indented.
-/
namespace Polyglot.Yaml

/-- What becomes of the ends of the last lines. -/
inductive Chomping
  | strip
  | clip
  | keep
  deriving DecidableEq, Repr

/-- What follows the mark of a block scalar. -/
structure BlockHeader where
  chomping : Chomping
  /-- the indentation below that of the collection around -/
  increment : Option Nat
  deriving DecidableEq, Repr

/-- Cuts off a sign that tells what becomes of the last lines. -/
def cutChomping (c : Cursor) : Option Chomping × Cursor :=
  if c.head = '+' then (some .keep, c.next)
  else if c.head = '-' then (some .strip, c.next)
  else (none, c)

/-- Cuts off a digit other than zero that tells the indentation. -/
def cutIncrement (c : Cursor) : Except Fault (Option Nat × Cursor) :=
  match Radix.digit? 10 c.head with
  | none => .ok (none, c)
  | some 0 => .error .token
  | some n => .ok (some n, c.next)

/-- Skips the rest of a line, on which only a comment stands. -/
def emptyRest (c : Cursor) : Except Fault Cursor :=
  let c := c.skipSpaces.skipComment
  if isLineEnd c.head then .ok c.skipBreak else .error .token

/-- Reads the header of a block scalar after its mark. -/
def blockHeader (c : Cursor) : Except Fault (BlockHeader × Cursor) := do
  let (before, c) := cutChomping c
  let (increment, c) ← cutIncrement c
  let (after, c) := if before.isNone && increment.isSome then cutChomping c else (none, c)
  if !isGapButTab c.head then .error .token
  else
    let c ← emptyRest c
    .ok (⟨((before <|> after).getD .clip), increment⟩, c)

/-- Reads the empty lines at the front, and tells the widest run of spaces on them and on the next
line. -/
def leadingLines (fuel widest : Nat) (c : Cursor) : List Char × Nat × Cursor :=
  match fuel with
  | 0 => ([], widest, c)
  | fuel + 1 =>
      match c.lineBreak? with
      | some (b, c) =>
          let (bs, w, c) := leadingLines fuel widest c
          (b :: bs, w, c)
      | none =>
          if c.head = ' ' then leadingLines fuel (max widest c.next.column) c.next
          else ([], widest, c)

def skipIndent (column : Nat) (c : Cursor) : Cursor :=
  let n := (c.rest.takeWhile (· = ' ')).length
  c.skip (min n (column - c.column))

/-- Reads the ends of empty lines, and skips the indentation of the next line. -/
def blockBreaks (fuel indent : Nat) (c : Cursor) : List Char × Cursor :=
  match fuel with
  | 0 => ([], c)
  | fuel + 1 =>
      let c := skipIndent indent c
      match c.lineBreak? with
      | none => ([], c)
      | some (b, c) =>
          let (bs, c) := blockBreaks fuel indent c
          (b :: bs, c)

/-- Whether a line of the scalar starts here. -/
def isBlockLine (indent : Nat) (c : Cursor) : Bool := c.column == indent && !c.rest.isEmpty

/-- Reads the lines of a block scalar; every step takes a line. `breaks` are the ends of the empty
lines before. -/
def blockLines (fuel : Nat) (isFolded : Bool) (chomping : Chomping) (indent : Nat)
    (breaks : List Char) (c : Cursor) : List Char × Cursor :=
  match fuel with
  | 0 => ([], c)
  | fuel + 1 =>
      let startsWord := !isSpace c.head
      let (line, c) := c.cut fun ch => !isBreak ch
      let (lineEnd, c) : List Char × Cursor :=
        match c.lineBreak? with
        | some (b, c) => ([b], c)
        | none => ([], c)
      let (next, c) := blockBreaks (c.rest.length + 1) indent c
      if isBlockLine indent c then
        let joint :=
          if isFolded && lineEnd == ['\n'] && startsWord && !isSpace c.head then
            if next.isEmpty then [' '] else []
          else lineEnd
        let (more, c) := blockLines fuel isFolded chomping indent next c
        (breaks ++ line ++ joint ++ more, c)
      else
        let tail : List Char :=
          match chomping with
          | .strip => []
          | .clip => lineEnd
          | .keep => lineEnd ++ next
        (breaks ++ line ++ tail, c)

/-- Reads a block scalar after its mark; `indent` is the indentation of the collection around. -/
def blockScalar (isFolded : Bool) (indent : Int) (c : Cursor) :
    Except Fault (List Char × Cursor) := do
  let (header, c) ← blockHeader c
  let least := max 1 (indent + 1).toNat
  let (breaks, width, c) :=
    match header.increment with
    | none =>
        let (bs, w, c) := leadingLines (c.rest.length + 1) 0 c
        (bs, max least w, c)
    | some n =>
        let (bs, c) := blockBreaks (c.rest.length + 1) (least + n - 1) c
        (bs, least + n - 1, c)
  if isBlockLine width c then
    .ok (blockLines (c.rest.length + 1) isFolded header.chomping width breaks c)
  else .ok (if header.chomping = .keep then breaks else [], c)

end Polyglot.Yaml

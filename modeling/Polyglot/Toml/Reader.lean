import Polyglot.Toml.Document
import Polyglot.Toml.Scalar

/-!
# TOML reader

Reads documents: a document is a sequence of lines, each of which is empty, sets a value or opens
a table. Arrays may go on over several lines, inline tables may not.
-/
namespace Polyglot.Toml

/-- A fault unless there is a result. -/
def orMalformed {α : Type} : Option α → Except Fault α
  | some a => .ok a
  | none => .error .malformed

/-! ## Keys -/

/-- Whether the character may stand in a key without quotes. -/
def isBare (c : Char) : Bool := c.isAlphanum || c == '-' || c == '_'

/-- Reads a part of a key: a bare word or a text on one line. -/
def keyPart (cs : List Char) : Except Fault (String × List Char) :=
  let word := cs.takeWhile isBare
  if !word.isEmpty then .ok (String.ofList word, cs.drop word.length)
  else
    match cs with
    | '"' :: r => (quoted false r).map fun (s, rest) => (String.ofList s, rest)
    | '\'' :: r => (literal r).map fun (s, rest) => (String.ofList s, rest)
    | _ => .error .malformed

/-- Reads a dotted key; every step takes a part. -/
def keyUpTo (fuel : Nat) (cs : List Char) : Except Fault (KeyPath × List Char) :=
  match fuel with
  | 0 => .error .malformed
  | fuel + 1 => do
      let (part, r) ← keyPart cs
      match skipSpaces r with
      | '.' :: t => (keyUpTo fuel (skipSpaces t)).map fun (ks, rest) => (part :: ks, rest)
      | t => .ok ([part], t)

/-- Reads a dotted key and the spaces after it. -/
def key (cs : List Char) : Except Fault (KeyPath × List Char) := keyUpTo (cs.length + 1) cs

/-! ## Blanks and comments -/

/-- Drops a comment; control characters do not occur in it. -/
def skipComment (cs : List Char) : Except Fault (List Char) :=
  match cs with
  | '#' :: r =>
      let body := r.takeWhile (· ≠ '\n')
      if body.any (isIllegal false) then .error .malformed else .ok (r.drop body.length)
  | cs => .ok cs

/-- Drops blanks, ends of lines and comments; every step takes a comment. -/
def skipGapUpTo (fuel : Nat) (cs : List Char) : Except Fault (List Char) :=
  match fuel, cs.dropWhile isSpaceOrLine with
  | fuel + 1, '#' :: r => do skipGapUpTo fuel (← skipComment ('#' :: r))
  | _, r => .ok r

/-- Drops blanks, ends of lines and comments. -/
def skipGap (cs : List Char) : Except Fault (List Char) := skipGapUpTo (cs.length + 1) cs

/-! ## Values -/

mutual

def value (fuel : Nat) (cs : List Char) : Except Fault (Value × List Char) :=
  match fuel with
  | 0 => .error .malformed
  | fuel + 1 =>
      match text? cs, cs with
      | some found, _ => found.map fun (s, rest) => (.text (String.ofList s), rest)
      | none, '[' :: r => do
          match ← skipGap r with
          | ']' :: t => .ok (.list [], t)
          | t => (items fuel t).map fun (vs, rest) => (.list vs, rest)
      | none, '\x7b' :: r =>
          match skipSpaces r with
          | '\x7d' :: t => .ok (.dict [], t)
          | t => (members fuel .empty t).map fun (es, rest) => (.dict es, rest)
      | none, cs => scalar cs

/-- Reads the items of an array up to its end. -/
def items (fuel : Nat) (cs : List Char) : Except Fault (List Value × List Char) :=
  match fuel with
  | 0 => .error .malformed
  | fuel + 1 => do
      let (v, r) ← value fuel cs
      match ← skipGap r with
      | ']' :: t => .ok ([v], t)
      | ',' :: t =>
          match ← skipGap t with
          | ']' :: t => .ok ([v], t)
          | t => (items fuel t).map fun (vs, rest) => (v :: vs, rest)
      | _ => .error .malformed

/-- Reads the members of an inline table up to its end. -/
def members (fuel : Nat) (t : InlineTable) (cs : List Char) : Except Fault (Bundle × List Char) :=
  match fuel with
  | 0 => .error .malformed
  | fuel + 1 => do
      let (k, v, r) ← member fuel cs
      let t ← orMalformed (t.set? k v)
      match skipSpaces r with
      | '\x7d' :: r => .ok (t.data, r)
      | ',' :: r => members fuel t (skipSpaces r)
      | _ => .error .malformed

def member (fuel : Nat) (cs : List Char) : Except Fault (KeyPath × Value × List Char) :=
  match fuel with
  | 0 => .error .malformed
  | fuel + 1 => do
      match ← key cs with
      | (k, '=' :: r) => (value fuel (skipSpaces r)).map fun (v, rest) => (k, v, rest)
      | _ => .error .malformed

end

/-! ## Statements -/

/-- Reads a header after its brackets: the document, the path that the next lines belong to and the
rest of the line. `isItem` tells whether the header opens a table in an array. -/
def header (isItem : Bool) (d : Document) (cs : List Char) :
    Except Fault (Document × KeyPath × List Char) := do
  let (path, r) ← key (skipSpaces cs)
  let d := d.startSection
  if isItem then
    let d ← orMalformed (d.openItem? path)
    match r with
    | ']' :: ']' :: t => .ok (d, path, t)
    | _ => .error .malformed
  else
    let d ← orMalformed (d.openTable? path)
    match r with
    | ']' :: t => .ok (d, path, t)
    | _ => .error .malformed

def statement (d : Document) (path : KeyPath) (cs : List Char) :
    Except Fault (Document × KeyPath × List Char) :=
  match cs with
  | '[' :: '[' :: r => header true d r
  | '[' :: r => header false d r
  | '#' :: r => .ok (d, path, '#' :: r)
  | cs => do
      let (k, v, r) ← member (2 * cs.length + 2) cs
      let d ← orMalformed (d.set? path k v)
      .ok (d, path, r)

/-- Reads statements up to the end of the document; every step takes a line. -/
def statements (fuel : Nat) (d : Document) (path : KeyPath) (cs : List Char) :
    Except Fault Bundle :=
  match fuel with
  | 0 => .error .malformed
  | fuel + 1 =>
      match skipSpaces cs with
      | [] => .ok d.data
      | '\n' :: r => statements fuel d path r
      | cs => do
          let (d, path, r) ← statement d path cs
          match ← skipComment (skipSpaces r) with
          | [] => .ok d.data
          | '\n' :: t => statements fuel d path t
          | _ => .error .malformed

/-- A carriage return and a line feed end a line like a line feed alone. -/
def joinLineEnds : List Char → List Char
  | '\r' :: '\n' :: r => '\n' :: joinLineEnds r
  | c :: r => c :: joinLineEnds r
  | [] => []

def read (s : String) : Except Fault Bundle :=
  let cs := joinLineEnds s.toList
  statements (cs.length + 1) .empty [] cs

end Polyglot.Toml

import Polyglot.Text.Utf8
import Polyglot.Yaml.Block

/-!
# Anchors, tags and directives

An anchor names a node, an alias repeats a named node, a tag tells what a node stands for, and a
directive of a document may give a handle to the front of many tags.
-/
namespace Polyglot.Yaml

/-- Goes on only after one of the characters of a class. -/
def expect (p : Char → Bool) (c : Cursor) : Except Fault Unit :=
  if p c.head then .ok () else .error .token

/-- Cuts off a word, which is not empty. -/
def cutName (c : Cursor) : Except Fault (String × Cursor) :=
  let (cs, c) := c.cut isWordChar
  if cs.isEmpty then .error .token else .ok (String.ofList cs, c)

/-- Reads the name of an anchor or an alias after its mark. -/
def anchorName (c : Cursor) : Except Fault (String × Cursor) := do
  let (name, c) ← cutName c
  expect (fun ch => isGap ch || "?:,]\x7d%@\x60".toList.contains ch) c
  .ok (name, c)

/-! ## Tags -/

def isTagChar (c : Char) : Bool := isWordChar c || ";/?:@&=+$,_.!~*'()[]".toList.contains c

/-- Reads bytes that are written as a percent sign and two hexadecimal digits each. -/
def escapedBytes (fuel : Nat) (c : Cursor) : Except Fault (List UInt8 × Cursor) :=
  match fuel with
  | 0 => .error .token
  | fuel + 1 =>
      if c.head ≠ '%' then .ok ([], c)
      else
        let ds := c.next.rest.take 2
        if ds.length = 2 ∧ ds.all (Radix.isDigit 16) then
          (escapedBytes fuel (c.skip 3)).map fun (bs, c) => ((Radix.toNat 16 ds).toUInt8 :: bs, c)
        else .error .token

def textOfBytes (bs : List UInt8) : Except Fault (List Char) :=
  match String.fromUTF8? ⟨bs.toArray⟩ with
  | some s => .ok s.toList
  | none => .error .token

/-- Reads the characters of a tag; every step takes some. -/
def tagTextUpTo (fuel : Nat) (c : Cursor) : Except Fault (List Char × Cursor) :=
  match fuel with
  | 0 => .ok ([], c)
  | fuel + 1 =>
      let (cs, c) := c.cut isTagChar
      if c.head ≠ '%' then .ok (cs, c)
      else do
        let (bs, c) ← escapedBytes (c.rest.length + 1) c
        let escaped ← textOfBytes bs
        (tagTextUpTo fuel c).map fun (more, c) => (cs ++ escaped ++ more, c)

/-- Reads the characters of a tag; there are some. -/
def tagText (c : Cursor) : Except Fault (String × Cursor) := do
  let start := c
  let (cs, c) ← tagTextUpTo (c.rest.length + 1) c
  if c.index = start.index then .error .token else .ok (String.ofList cs, c)

/-- Reads a handle: an exclamation mark, or two with a word between them. -/
def tagHandle (c : Cursor) : Except Fault (String × Cursor) :=
  if c.head ≠ '!' then .error .token
  else if c.peek 1 = ' ' then .ok ("!", c.next)
  else
    let (cs, c) := c.next.cut isWordChar
    if c.head = '!' then .ok ("!" ++ String.ofList cs ++ "!", c.next) else .error .token

/-- A tag: its handle, if it has one, and the rest of it. -/
abbrev TagName := Option String × String

/-- Reads a tag without a mark that ends its handle, or with one. -/
def shortTag (c : Cursor) : Except Fault (TagName × Cursor) := do
  let word := c.next.rest.takeWhile fun ch => !isGapButTab ch
  let (handle, c) ← if '!' ∈ word then tagHandle c else .ok ("!", c.next)
  let (suffix, c) ← tagText c
  .ok ((some handle, suffix), c)

def tagName (c : Cursor) : Except Fault (TagName × Cursor) := do
  let (tag, c) ←
    if c.peek 1 = '<' then do
      let (name, c) ← tagText (c.skip 2)
      if c.head = '>' then .ok ((none, name), c.next) else .error .token
    else if isGap (c.peek 1) then .ok ((none, "!"), c.next)
    else shortTag c
  expect isGapButTab c
  .ok (tag, c)

/-! ## Directives -/

/-- Reads a run of digits. -/
def directiveNumber (c : Cursor) : Except Fault (Nat × Cursor) :=
  let (ds, c) := c.cut (Radix.isDigit 10)
  if ds.isEmpty then .error .token else .ok (Radix.toNat 10 ds, c)

/-- Reads the two numbers of a version. -/
def versionDirective (c : Cursor) : Except Fault (Directive × Cursor) := do
  let (major, c) ← directiveNumber c.skipSpaces
  expect (· = '.') c
  let (_, c) ← directiveNumber c.next
  expect isGapButTab c
  .ok (.version major, c)

/-- Reads a handle and the front of tags. -/
def handleDirective (c : Cursor) : Except Fault (Directive × Cursor) := do
  let (handle, c) ← tagHandle c.skipSpaces
  expect (· = ' ') c
  let (front, c) ← tagText c.skipSpaces
  expect isGapButTab c
  .ok (.handle handle front, c)

/-- Reads a directive after its mark, with its line. -/
def directive (c : Cursor) : Except Fault (Directive × Cursor) := do
  let (name, c) ← cutName c
  expect isGapButTab c
  let (d, c) ←
    if name = "YAML" then versionDirective c
    else if name = "TAG" then handleDirective c
    else .ok (.other, c.skipLine)
  .ok (d, ← emptyRest c)

end Polyglot.Yaml

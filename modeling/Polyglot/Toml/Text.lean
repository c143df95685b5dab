import Polyglot.Number.Radix

/-!
# TOML texts

A text stands in quotes, in which a backslash starts an escape, or in apostrophes, between which
every character is itself. Three of them open a text of several lines. Control characters other
than tabs do not occur in texts.
-/
namespace Polyglot.Toml

/-- Why a document is refused. -/
inductive Fault
  | malformed
  /-- a decimal integer has too many digits -/
  | tooLong (digits : Nat)
  deriving DecidableEq, Repr

def isSpace (c : Char) : Bool := c == ' ' || c == '\t'

/-- Whether the character is a space, a tab or the end of a line. -/
def isSpaceOrLine (c : Char) : Bool := isSpace c || c == '\n'

def skipSpaces (cs : List Char) : List Char := cs.dropWhile isSpace

/-- Whether a character may not occur in a text, a comment included. -/
def isIllegal (severalLines : Bool) (c : Char) : Bool :=
  (c.toNat < 32 || c.toNat == 127) && !(c == '\t' || (severalLines && c == '\n'))

/-! ## Escapes -/

/-- The character that a letter after a backslash stands for. -/
def escape? : Char → Option Char
  | 'b' => some (Char.ofNat 8)
  | 't' => some '\t'
  | 'n' => some '\n'
  | 'f' => some (Char.ofNat 12)
  | 'r' => some '\r'
  | '"' => some '"'
  | '\\' => some '\\'
  | _ => none

/-- The character with a number of as many hexadecimal digits as stand at the front. -/
def codePoint (width : Nat) (cs : List Char) : Except Fault (List Char × List Char) :=
  let ds := cs.take width
  let n := Radix.toNat 16 ds
  if ds.length = width ∧ ds.all (Radix.isDigit 16) ∧ n.isValidChar then
    .ok ([Char.ofNat n], cs.drop width)
  else .error .malformed

/-- What is left after a backslash at the end of a line: it joins the line with the next text. -/
def joinLines (cs : List Char) : Except Fault (List Char × List Char) :=
  match skipSpaces cs with
  | [] => .ok ([], [])
  | '\n' :: r => .ok ([], r.dropWhile isSpaceOrLine)
  | _ => .error .malformed

/-- Reads an escape after its backslash. -/
def escape (severalLines : Bool) : List Char → Except Fault (List Char × List Char)
  | [] => .error .malformed
  | c :: r =>
      if severalLines && isSpaceOrLine c then joinLines (c :: r)
      else if c = 'u' then codePoint 4 r
      else if c = 'U' then codePoint 8 r
      else
        match escape? c with
        | some d => .ok ([d], r)
        | none => .error .malformed

/-! ## Texts -/

/-- Reads a text in quotes up to its end; every step takes a character. -/
def quotedUpTo (fuel : Nat) (severalLines : Bool) (cs : List Char) :
    Except Fault (List Char × List Char) :=
  match fuel, cs with
  | 0, _ => .error .malformed
  | _, [] => .error .malformed
  | fuel + 1, '"' :: r =>
      match severalLines, r with
      | false, r => .ok ([], r)
      | true, '"' :: '"' :: t => .ok ([], t)
      | true, r => (quotedUpTo fuel severalLines r).map fun (s, rest) => ('"' :: s, rest)
  | fuel + 1, '\\' :: r => do
      let (front, r) ← escape severalLines r
      (quotedUpTo fuel severalLines r).map fun (s, rest) => (front ++ s, rest)
  | fuel + 1, c :: r =>
      if isIllegal severalLines c then .error .malformed
      else (quotedUpTo fuel severalLines r).map fun (s, rest) => (c :: s, rest)

/-- Reads a text in quotes after the opening ones. -/
def quoted (severalLines : Bool) (cs : List Char) : Except Fault (List Char × List Char) :=
  quotedUpTo (cs.length + 1) severalLines cs

/-- Reads a text in apostrophes after the opening one. -/
def literal : List Char → Except Fault (List Char × List Char)
  | [] => .error .malformed
  | '\'' :: r => .ok ([], r)
  | c :: r =>
      if isIllegal false c then .error .malformed
      else (literal r).map fun (s, rest) => (c :: s, rest)

/-- Reads a text of several lines in apostrophes after the opening ones. -/
def longLiteral : List Char → Except Fault (List Char × List Char)
  | [] => .error .malformed
  | '\'' :: '\'' :: '\'' :: r => .ok ([], r)
  | c :: r =>
      if isIllegal true c then .error .malformed
      else (longLiteral r).map fun (s, rest) => (c :: s, rest)

/-- Up to two marks after the three that end a text of several lines belong to the text. -/
def withMarks (mark : Char) (s rest : List Char) : List Char × List Char :=
  let more := (rest.take 2).takeWhile (· = mark)
  (s ++ more, rest.drop more.length)

/-- A text of several lines does not start with the end of the line that it opens on. -/
def afterLineEnd : List Char → List Char
  | '\n' :: r => r
  | cs => cs

/-- Reads a text at the front, if there is one. -/
def text? (cs : List Char) : Option (Except Fault (List Char × List Char)) :=
  match cs with
  | '"' :: '"' :: '"' :: r =>
      some ((quoted true (afterLineEnd r)).map fun (s, rest) => withMarks '"' s rest)
  | '"' :: r => some (quoted false r)
  | '\'' :: '\'' :: '\'' :: r =>
      some ((longLiteral (afterLineEnd r)).map fun (s, rest) => withMarks '\'' s rest)
  | '\'' :: r => some (literal r)
  | _ => none

end Polyglot.Toml

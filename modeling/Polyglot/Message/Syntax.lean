import Polyglot.Text.Blank
import Polyglot.Text.Digit

/-!
# Message syntax

The tree of a message template and the lexical classes of its parts. A message is a list
of nodes: literal text, simple arguments, and arguments with a type. Plural and select
arguments choose among arms, each of which is a message again.
-/
namespace Polyglot.Message

/-- Whether a date argument prints the day or the time of day. -/
inductive DateKind
  | date
  | time
  deriving DecidableEq, Repr

def DateKind.keyword : DateKind → String
  | date => "date"
  | time => "time"

/-- A node of a message. `raw` is the source of a simple argument, braces included. -/
inductive Node
  | text (value : String)
  | argument (name raw : String)
  | pound
  | number (name : String) (style : Option String)
  | moment (kind : DateKind) (name : String) (style : Option String)
  | select (name : String) (arms : List (String × List Node))
  | plural (name : String) (offset : Nat) (ordinal : Bool) (arms : List (String × List Node))
  deriving Repr, Inhabited

def isNameChar (c : Char) : Bool :=
  !(Text.isBlank c || c == '\x7b' || c == '\x7d' || c == ',' || c == '\'' || c == '#')

def isKeywordChar (c : Char) : Bool := ('a' ≤ c && c ≤ 'z') || ('A' ≤ c && c ≤ 'Z')

def isSelectorChar (c : Char) : Bool := !(Text.isBlank c || c == '\x7b' || c == '\x7d')

/-- How deep arguments may be nested. -/
def maxNesting : Nat := 50

def cutMinus : List Char → List Char × List Char
  | '-' :: r => (['-'], r)
  | r => ([], r)

/-- Splits off a point with digits behind it. -/
def cutFraction : List Char → List Char × List Char
  | '.' :: r =>
      if (r.takeWhile Text.isDigit).isEmpty then ([], '.' :: r)
      else ('.' :: r.takeWhile Text.isDigit, r.dropWhile Text.isDigit)
  | r => ([], r)

/-- An exact selector at the front: `=`, a sign, digits and a fraction. Returns the rest. -/
def exactSelector? : List Char → Option (List Char × List Char)
  | '=' :: r =>
      let number := (cutMinus r).2
      let whole := number.takeWhile Text.isDigit
      let tail := cutFraction (number.dropWhile Text.isDigit)
      if whole.isEmpty then none
      else some ('=' :: ((cutMinus r).1 ++ whole ++ tail.1), tail.2)
  | _ => none

/-- Splits a selector off: an exact one if there is one, and else the longest run of
selector characters. -/
def cutSelector (cs : List Char) : List Char × List Char :=
  match exactSelector? cs with
  | some p => p
  | none => (cs.takeWhile isSelectorChar, cs.dropWhile isSelectorChar)

/-- Puts literal text in front of a message; adjacent texts become one node. -/
def consText (s : String) : List Node → List Node
  | .text t :: r => .text (s ++ t) :: r
  | nodes => .text s :: nodes

end Polyglot.Message

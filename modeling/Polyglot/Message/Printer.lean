import Polyglot.Message.Parser

/-!
# Message printer

Writes a message in one canonical form. A text is copied up to its first syntax character and
quoted from there on, a simple argument is its source, and a plural argument always tells its
offset.
-/
namespace Polyglot.Message

def doubled : List Char → List Char
  | [] => []
  | c :: r => if c = '\'' then '\'' :: '\'' :: doubled r else c :: doubled r

/-- Writes literal text. One pair of apostrophes quotes all of it from the first syntax character
on. -/
def printText (inPlural : Bool) : List Char → List Char
  | [] => []
  | c :: r =>
      if opensQuote inPlural c then '\'' :: (doubled (c :: r) ++ ['\''])
      else if c = '\'' then '\'' :: '\'' :: printText inPlural r
      else c :: printText inPlural r

def printStyle : Option String → List Char
  | none => []
  | some s => ',' :: ' ' :: s.toList

def printHead (name keyword : String) : List Char :=
  '\x7b' :: (name.toList ++ ',' :: ' ' :: keyword.toList)

def pluralKeyword (ordinal : Bool) : String := if ordinal then "selectordinal" else "plural"

mutual

def printNodes (inPlural : Bool) : List Node → List Char
  | [] => []
  | n :: ns => printNode inPlural n ++ printNodes inPlural ns

def printNode (inPlural : Bool) : Node → List Char
  | .text s => printText inPlural s.toList
  | .argument _ raw => raw.toList
  | .pound => ['#']
  | .number name style => printHead name "number" ++ printStyle style ++ ['\x7d']
  | .moment kind name style => printHead name kind.keyword ++ printStyle style ++ ['\x7d']
  | .select name arms => printHead name "select" ++ ',' :: printArms false arms ++ ['\x7d']
  | .plural name offset ordinal arms =>
      printHead name (pluralKeyword ordinal) ++ ", offset:".toList ++ Text.natDigits offset ++
        printArms true arms ++ ['\x7d']

/-- Writes arms, each with a space in front. -/
def printArms (inPlural : Bool) : List (String × List Node) → List Char
  | [] => []
  | (selector, nodes) :: arms =>
      ' ' :: (selector.toList ++ ' ' :: '\x7b' :: (printNodes inPlural nodes ++
        '\x7d' :: printArms inPlural arms))

end

def print (nodes : List Node) : String := String.ofList (printNodes false nodes)

end Polyglot.Message

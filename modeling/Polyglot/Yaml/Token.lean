/-!
# YAML tokens

What a document is made of, before its structure is known, and what can be wrong with a document.
-/
namespace Polyglot.Yaml

/-- Why a document is refused. -/
inductive Fault
  /-- a character that no document holds -/
  | unprintable
  /-- the characters make no token -/
  | token
  /-- a token stands where none of its kind may stand -/
  | misplaced
  /-- an anchor is unknown or set twice, or there is a second document -/
  | composition
  /-- a node does not fit its tag, or nothing is known of the tag -/
  | construction
  /-- a scalar is no value of its tag -/
  | value (text : String)
  /-- a scalar stands for a character that does not exist -/
  | character
  /-- a scalar is none of the words of its tag -/
  | word (text : String)
  /-- a number has no characters -/
  | emptyNumber
  /-- a scalar is not written like a time -/
  | time
  deriving DecidableEq, Repr

/-- A line that tells how to read the next document. -/
inductive Directive
  | version (major : Nat)
  /-- a handle stands for the front of tags -/
  | handle (handle front : String)
  | other
  deriving DecidableEq, Repr

inductive Token
  | directive (d : Directive)
  | documentStart
  | documentEnd
  | streamEnd
  | blockSequence
  | blockMapping
  | blockEnd
  | flowSequence
  | flowSequenceEnd
  | flowMapping
  | flowMappingEnd
  | flowEntry
  | blockEntry
  | key
  | value
  | alias (name : String)
  | anchor (name : String)
  /-- a tag with its handle, if it has one -/
  | tag (handle : Option String) (suffix : String)
  /-- a scalar; a plain one is neither quoted nor a block of lines -/
  | scalar (isPlain : Bool) (text : List Char)
  deriving DecidableEq, Repr

end Polyglot.Yaml

import Polyglot.Yaml.Stream
import Polyglot.Yaml.Tag

/-!
# YAML nodes

The structure of a document: scalars, sequences and mappings, each with what it stands for. An alias
stands for the node that its anchor names, which is a node before it.
-/
namespace Polyglot.Yaml

inductive Node
  | scalar (tag : Tag) (text : List Char)
  | sequence (tag : Tag) (items : List Node)
  | mapping (tag : Tag) (entries : List (Node × Node))
  deriving Repr

namespace Node

def tag : Node → Tag
  | scalar t _ => t
  | sequence t _ => t
  | mapping t _ => t

def empty : Node := .scalar .null []

end Node

/-! ## Reading -/

def commonHandles : List (String × String) := [("!", "!"), ("!!", Tag.root)]

/-- How far the structure of a document was read. -/
structure Progress where
  stream : Stream
  handles : List (String × String)
  /-- the named nodes; one that is not complete has a name and no content -/
  anchors : List (String × Option Node)

abbrev Reading := StateT Progress (Except Fault)

namespace Reading

/-- The next token, which stays. -/
def peek : Reading Token := do
  let p ← get
  let s ← p.stream.settle
  set { p with stream := s }
  pure (s.queue.head?.getD .streamEnd)

/-- Takes the next token. -/
def take : Reading Unit := modify fun p => { p with stream := p.stream.drop }

/-- Takes the next token if it is the given one. -/
def takeIf (t : Token) : Reading Bool := do
  if (← peek) = t then
    take
    pure true
  else pure false

/-- Takes the given token, which must come next. -/
def expect (t : Token) : Reading Unit := do
  if !(← takeIf t) then throw .misplaced

/-! ## Properties -/

def anchor? : Reading (Option String) := do
  match ← peek with
  | .anchor name =>
      take
      pure (some name)
  | _ => pure none

def tag? : Reading (Option TagName) := do
  match ← peek with
  | .tag handle suffix =>
      take
      pure (some (handle, suffix))
  | _ => pure none

/-- The name of a tag; its handle must be known. -/
def nameOf : TagName → Reading String
  | (none, suffix) => pure suffix
  | (some handle, suffix) => do
      match (← get).handles.find? fun e => e.1 = handle with
      | some e => pure (e.2 ++ suffix)
      | none => throw .misplaced

/-- Reads an anchor and a tag, in either order. -/
def properties : Reading (Option String × Option String) := do
  let before ← anchor?
  let tag ← tag?
  let anchor ← if before.isNone && tag.isSome then anchor? else pure before
  pure (anchor, ← tag.mapM nameOf)

/-- Names the node that starts; a name is given once. -/
def announce : Option String → Reading Unit
  | none => pure ()
  | some name => do
      let p ← get
      if p.anchors.any fun e => e.1 = name then throw .composition
      else set { p with anchors := (name, none) :: p.anchors }

def complete (anchor : Option String) (n : Node) : Reading Node := do
  match anchor with
  | none => pure n
  | some name =>
      modify fun p => { p with anchors := (name, some n) :: p.anchors }
      pure n

/-- The node of an alias; it must be complete. -/
def named (name : String) : Reading Node := do
  match (← get).anchors.find? fun e => e.1 = name with
  | some (_, some n) => pure n
  | some (_, none) => throw .construction
  | none => throw .composition

/-- The tag of a node: the one that is written, or else what a node of its kind stands for. -/
def tagOr (written : Option String) (otherwise : Tag) : Tag :=
  match written with
  | none => otherwise
  | some name => if name = "!" then otherwise else .ofName name

/-- The tag of a scalar. Only a plain one, or one with an empty tag, stands for what it looks
like. -/
def scalarTag (written : Option String) (isPlain : Bool) (text : List Char) : Tag :=
  tagOr written (if isPlain || written.isSome then .ofPlain text else .text)

/-! ## Nodes -/

/-- Where a node stands. -/
inductive Place
  | block
  /-- where the items of a sequence need no indentation -/
  | entry
  | flow
  deriving DecidableEq, Repr

mutual

def node (fuel : Nat) (place : Place) : Reading Node := do
  match fuel with
  | 0 => throw .misplaced
  | fuel + 1 =>
      match ← peek with
      | .alias name =>
          take
          named name
      | _ =>
          let (anchor, tag) ← properties
          match ← peek, place with
          | .scalar isPlain text, _ =>
              take
              announce anchor
              complete anchor (.scalar (scalarTag tag isPlain text) text)
          | .blockEntry, .entry =>
              announce anchor
              let items ← openItems fuel
              complete anchor (.sequence (tagOr tag .sequence) items)
          | token, _ =>
              if place != .flow && token == .blockSequence || token == .flowSequence then
                announce anchor
                take
                let items ←
                  if token = .flowSequence then flowItems fuel true else blockItems fuel
                complete anchor (.sequence (tagOr tag .sequence) items)
              else if place != .flow && token == .blockMapping || token == .flowMapping then
                announce anchor
                take
                let entries ←
                  if token = .flowMapping then flowEntries fuel true else blockEntries fuel
                complete anchor (.mapping (tagOr tag .mapping) entries)
              else if anchor.isSome || tag.isSome then
                announce anchor
                complete anchor (.scalar (tagOr tag .null) [])
              else throw .misplaced

/-- Reads a node, unless one of some tokens follows. -/
def nodeUnless (fuel : Nat) (place : Place) (ends : List Token) : Reading Node := do
  match fuel with
  | 0 => throw .misplaced
  | fuel + 1 => if (← peek) ∈ ends then pure .empty else node fuel place

def blockItems (fuel : Nat) : Reading (List Node) := do
  match fuel with
  | 0 => throw .misplaced
  | fuel + 1 =>
      if ← takeIf .blockEntry then
        let item ← nodeUnless fuel .block [.blockEntry, .blockEnd]
        return item :: (← blockItems fuel)
      else
        expect .blockEnd
        pure []

/-- Reads the items of a sequence that has no block of its own. -/
def openItems (fuel : Nat) : Reading (List Node) := do
  match fuel with
  | 0 => throw .misplaced
  | fuel + 1 =>
      if ← takeIf .blockEntry then
        let item ← nodeUnless fuel .block [.blockEntry, .key, .value, .blockEnd]
        return item :: (← openItems fuel)
      else pure []

/-- Reads a value after its colon, if there is one. -/
def valueUnless (fuel : Nat) (place : Place) (ends : List Token) : Reading Node := do
  match fuel with
  | 0 => throw .misplaced
  | fuel + 1 => if ← takeIf .value then nodeUnless fuel place ends else pure .empty

def blockEntries (fuel : Nat) : Reading (List (Node × Node)) := do
  match fuel with
  | 0 => throw .misplaced
  | fuel + 1 =>
      if ← takeIf .key then
        let k ← nodeUnless fuel .entry [.key, .value, .blockEnd]
        let v ← valueUnless fuel .entry [.key, .value, .blockEnd]
        return (k, v) :: (← blockEntries fuel)
      else
        expect .blockEnd
        pure []

/-- Reads the items in brackets; a pair is a mapping of its own. -/
def flowItems (fuel : Nat) (isFirst : Bool) : Reading (List Node) := do
  match fuel with
  | 0 => throw .misplaced
  | fuel + 1 =>
      if ← takeIf .flowSequenceEnd then pure []
      else
        if !isFirst then expect .flowEntry
        if ← takeIf .flowSequenceEnd then pure []
        else if ← takeIf .key then
          let k ← nodeUnless fuel .flow [.value, .flowEntry, .flowSequenceEnd]
          let v ← valueUnless fuel .flow [.flowEntry, .flowSequenceEnd]
          return .mapping .mapping [(k, v)] :: (← flowItems fuel false)
        else
          let item ← node fuel .flow
          return item :: (← flowItems fuel false)

/-- Reads the entries in braces; a value may be left out. -/
def flowEntries (fuel : Nat) (isFirst : Bool) : Reading (List (Node × Node)) := do
  match fuel with
  | 0 => throw .misplaced
  | fuel + 1 =>
      if ← takeIf .flowMappingEnd then pure []
      else
        if !isFirst then expect .flowEntry
        if ← takeIf .flowMappingEnd then pure []
        else if ← takeIf .key then
          let k ← nodeUnless fuel .flow [.value, .flowEntry, .flowMappingEnd]
          let v ← valueUnless fuel .flow [.flowEntry, .flowMappingEnd]
          return (k, v) :: (← flowEntries fuel false)
        else
          let k ← node fuel .flow
          return (k, .empty) :: (← flowEntries fuel false)

end

/-! ## Documents -/

def skipEnds (fuel : Nat) : Reading Unit := do
  match fuel with
  | 0 => pure ()
  | fuel + 1 => if ← takeIf .documentEnd then skipEnds fuel

/-- Reads directives; the handles of a document are its own and the common ones. -/
def directives (fuel : Nat) (hasVersion : Bool) (handles : List (String × String)) :
    Reading Unit := do
  match fuel with
  | 0 => throw .misplaced
  | fuel + 1 =>
      match ← peek with
      | .directive d =>
          take
          match d with
          | .version major =>
              if hasVersion || major != 1 then throw .misplaced
              else directives fuel true handles
          | .handle handle front =>
              if handles.any fun e => e.1 = handle then throw .misplaced
              else directives fuel hasVersion ((handle, front) :: handles)
          | .other => directives fuel hasVersion handles
      | _ => modify fun p => { p with handles := handles ++ commonHandles }

/-- The tokens that do not belong to the content of a document. -/
def isOutside : Token → Bool
  | .directive _ => true
  | .documentStart => true
  | .documentEnd => true
  | .streamEnd => true
  | _ => false

/-- Reads a document that starts with a mark; `none` at the end of the text. -/
def marked? (fuel : Nat) : Reading (Option Node) := do
  skipEnds fuel
  if (← peek) = .streamEnd then pure none
  else
    directives fuel false []
    expect .documentStart
    if isOutside (← peek) then pure (some .empty) else some <$> node fuel .block

/-- Reads the only document of a text; `none` when there is none. -/
def document? (fuel : Nat) : Reading (Option Node) := do
  let first ← peek
  let found ←
    if isOutside first && first != .documentEnd then marked? fuel else some <$> node fuel .block
  if found.isSome then
    let _ ← takeIf .documentEnd
    skipEnds fuel
    if (← peek) ≠ .streamEnd then
      directives fuel false []
      expect .documentStart
      throw .composition
  pure found

end Reading

/-- The structure of a text; `none` when there is no document in it. -/
def Node.ofText? (cs : List Char) : Except Fault (Option Node) :=
  let start : Progress := ⟨.ofText cs, commonHandles, []⟩
  (Reading.document? (8 * cs.length + 16) start).map (·.1)

end Polyglot.Yaml

import Polyglot.Message.Parser

/-!
# Turns of the parser

The parser taken apart into its loops: through the nodes of a message, through the characters of a
quoted run, through the arms of a choice and through the characters of a style. A loop that comes to
something with a loop of its own waits until that one is left, and the arguments that are open are
counted. A turn is one round of the loop at work, or the part of it up to an inner loop. Only what
steers the reading is kept, not the nodes that are made.
-/
namespace Polyglot.Message

/-- A loop of the parser with what it keeps between two turns. -/
inductive Loop
  | message (inPlural nested : Bool)
  | quote
  /-- with the selectors that were read -/
  | arms (inPlural : Bool) (seen : List String)
  /-- with the text from the beginning of the style on, and the number of braces open in it -/
  | style (start : List Char) (braces : Nat)
  deriving DecidableEq, Repr

/-- Where the parser is: what is left of the text, how many arguments are open, the loop at work and
the loops that wait for it, the innermost one first. -/
structure Reading where
  left : List Char
  depth : Nat
  loop : Loop
  outer : List Loop
  deriving DecidableEq, Repr

/-- The parser in front of a text. -/
def Reading.start (source : String) : Reading := ⟨source.toList, 0, .message false false, []⟩

/-- What a turn comes to. -/
inductive Turned
  | goesOn (s : Reading)
  | ends (left : List Char)
  | fails (e : Failed)
  deriving DecidableEq, Repr

section Turn

variable (depth : Nat) (outer : List Loop)

/-- Leaves the loop at work, and the one around it goes on. Arms wait for a message, behind which a
closing brace stands. -/
def leave (left : List Char) : Turned :=
  match outer with
  | [] => .ends left
  | .arms inPlural seen :: outer =>
      match expect '\x7d' left with
      | .error e => .fails e
      | .ok ⟨r, _⟩ => .goesOn ⟨r, depth, .arms inPlural seen, outer⟩
  | loop :: outer => .goesOn ⟨left, depth, loop, outer⟩

/-- Leaves the last loop of an argument, which is closed. -/
def leaveArgument (left : List Char) : Turned :=
  match close left with
  | .error e => .fails e
  | .ok ⟨r, _⟩ => leave (depth - 1) outer r

/-- Enters the loop of an argument; the input is what follows its type. -/
def enterArgument (kind : Kind) (cs : List Char) : Turned :=
  match kind with
  | .plural _ =>
      match expect ',' cs with
      | .error e => .fails e
      | .ok ⟨r, _⟩ =>
          match offset (Text.skipBlanks r) with
          | .error e => .fails e
          | .ok (_, ⟨r1, _⟩) => .goesOn ⟨r1, depth, .arms true [], outer⟩
  | .select =>
      match expect ',' cs with
      | .error e => .fails e
      | .ok ⟨r, _⟩ => .goesOn ⟨r, depth, .arms false [], outer⟩
  | .number | .moment _ =>
      match cs with
      | ',' :: r => .goesOn ⟨r, depth, .style r 0, outer⟩
      | cs => leaveArgument depth outer cs

/-- Opens an argument; the input is what follows its opening brace. A simple one has no loop. -/
def openArgument (cs : List Char) : Turned :=
  if maxNesting < depth + 1 then .fails ⟨.tooDeep, cs.length⟩
  else
    match head cs with
    | .error e => .fails e
    | .ok (.simple _ ⟨r, _⟩) => leave depth outer r
    | .ok (.typed _ kind ⟨r, _⟩) => enterArgument (depth + 1) outer kind r

/-- What a turn of a message comes to behind an apostrophe, which may open a quoted run. -/
def turnApostrophe (inPlural nested : Bool) (cs : List Char) : Turned :=
  match cs with
  | [] => .goesOn ⟨[], depth, .message inPlural nested, outer⟩
  | c :: r =>
      if c = '\'' then .goesOn ⟨r, depth, .message inPlural nested, outer⟩
      else if opensQuote inPlural c then
        .goesOn ⟨c :: r, depth, .quote, .message inPlural nested :: outer⟩
      else .goesOn ⟨c :: r, depth, .message inPlural nested, outer⟩

/-- A turn through the nodes of a message. Here `#` is a character like any other. -/
def turnMessage (inPlural nested : Bool) (cs : List Char) : Turned :=
  match cs with
  | [] => leave depth outer []
  | c :: r =>
      if c = '\x7b' then openArgument depth (.message inPlural nested :: outer) r
      else if c = '\x7d' then
        if nested then leave depth outer (c :: r) else .fails ⟨.unmatchedBrace, (c :: r).length⟩
      else if c = '\'' then turnApostrophe depth outer inPlural nested r
      else .goesOn ⟨r, depth, .message inPlural nested, outer⟩

def turnQuote : List Char → Turned
  | [] => leave depth outer []
  | '\'' :: '\'' :: r => .goesOn ⟨r, depth, .quote, outer⟩
  | '\'' :: r => leave depth outer r
  | _ :: r => .goesOn ⟨r, depth, .quote, outer⟩

def turnArms (inPlural : Bool) (seen : List String) (cs : List Char) : Turned :=
  let start := Text.skipBlanks cs
  if start.isEmpty || start.head? == some '\x7d' then
    if seen.contains "other" then leaveArgument depth outer start
    else .fails ⟨.otherMissing, start.length⟩
  else
    let selector := String.ofList (cutSelector start).1
    let rest := (cutSelector start).2
    if (cutSelector start).1.isEmpty then .fails ⟨.selectorExpected, start.length⟩
    else if seen.contains selector then .fails ⟨.selectorDuplicate selector, rest.length⟩
    else
      match expect '\x7b' (Text.skipBlanks rest) with
      | .error e => .fails e
      | .ok ⟨r, _⟩ =>
          .goesOn ⟨r, depth, .message inPlural true, .arms inPlural (selector :: seen) :: outer⟩

/-- Leaves a style, which must not be blank. -/
def leaveStyle (start left : List Char) : Turned :=
  if (Text.trim (start.take (start.length - left.length))).isEmpty then
    .fails ⟨.styleExpected, left.length⟩
  else leaveArgument depth outer left

def turnStyle (start : List Char) (braces : Nat) (cs : List Char) : Turned :=
  match cs with
  | [] => leaveStyle depth outer start []
  | c :: r =>
      if c = '\x7b' then .goesOn ⟨r, depth, .style start (braces + 1), outer⟩
      else if c = '\x7d' then
        match braces with
        | 0 => leaveStyle depth outer start (c :: r)
        | b + 1 => .goesOn ⟨r, depth, .style start b, outer⟩
      else .goesOn ⟨r, depth, .style start braces, outer⟩

end Turn

def Reading.turn (s : Reading) : Turned :=
  match s.loop with
  | .message inPlural nested => turnMessage s.depth s.outer inPlural nested s.left
  | .quote => turnQuote s.depth s.outer s.left
  | .arms inPlural seen => turnArms s.depth s.outer inPlural seen s.left
  | .style start braces => turnStyle s.depth s.outer start braces s.left

namespace Turned

/-- One more turn, unless the reading is over. -/
def next : Turned → Turned
  | goesOn s => s.turn
  | o => o

/-- What is come to in some more turns. -/
def after (o : Turned) : Nat → Turned
  | 0 => o
  | n + 1 => (o.after n).next

end Turned

/-- What the reading of a text comes to in some turns. -/
def turned (source : String) (n : Nat) : Turned := (Turned.goesOn (.start source)).after n

end Polyglot.Message

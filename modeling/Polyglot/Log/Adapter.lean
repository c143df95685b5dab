import Polyglot.Config.Settings
import Polyglot.Json.Writer

/-!
# Log adapter

Writes the events of the library as lines, in JSON or for a console. Loggers form a tree by
their dotted names: a logger without a level of its own has that of the nearest logger above it.
The adapter attaches one handler to the logger of the library and keeps events from going
further up.
-/
namespace Polyglot

/-- How lines look. -/
inductive LogFormat
  | json
  | console
  deriving DecidableEq, Repr

/-- A handler that writes lines; handlers are told apart by their number. -/
structure LogHandler where
  id : Nat
  format : LogFormat
  deriving DecidableEq, Repr

/-- The loggers: the levels that were set, and the handlers of the logger of the library. A
level of zero counts as none. -/
structure LogTree where
  levels : List (String × Nat)
  handlers : List LogHandler
  propagates : Bool
  deriving Repr

/-- The adapter with the loggers that it works on. -/
structure LogAdapter where
  tree : LogTree
  own : Option LogHandler
  nextId : Nat
  rootLevel : String
  moduleLevels : List (String × String)
  format : String
  deriving Repr

/-! ## Levels -/

namespace LogTree

def sdk : String := "lingx"

/-- What the name of a level stands for. -/
inductive LevelName
  | level (n : Nat)
  /-- the name of something else, which is a text or not -/
  | other (isText : Bool)
  deriving DecidableEq, Repr

/-- What a name in upper case stands for; an unknown name stands for the level of information. -/
def levelName (name : String) : LevelName :=
  match name with
  | "CRITICAL" => .level 50
  | "FATAL" => .level 50
  | "ERROR" => .level 40
  | "WARNING" => .level 30
  | "WARN" => .level 30
  | "DEBUG" => .level 10
  | "NOTSET" => .level 0
  | "BASIC_FORMAT" => .other true
  | "_STYLES" => .other false
  | _ => .level 20

def nameOf (n : Nat) : String :=
  match n with
  | 50 => "CRITICAL"
  | 40 => "ERROR"
  | 30 => "WARNING"
  | 20 => "INFO"
  | 10 => "DEBUG"
  | _ => "NOTSET"

/-- The name under which a logger is kept; the topmost one has no name. -/
def key (name : String) : String := if name = "root" then "" else name

/-- The loggers from a name upwards; the input is the name in reverse. -/
def ancestors : List Char → List String
  | [] => [""]
  | c :: r =>
      if c = '.' then String.ofList r.reverse :: ancestors r else ancestors r

/-- A logger and the loggers above it, the nearest first. -/
def path (name : String) : List String :=
  if key name = "" then [""] else key name :: ancestors (key name).toList.reverse

/-- The level that counts for a logger. -/
def effective (t : LogTree) (name : String) : Nat :=
  ((path name).findSome? fun n => (Entries.get? t.levels n).filter (· ≠ 0)).getD 0

/-- The name of the logger under a key. A key that counts as false stands for the topmost logger;
any other key must be a text. -/
def loggerName? : Key → Option String
  | .text s => some s
  | k => if k.truthy then none else some ""

def setLevel (t : LogTree) (name : String) (level : Nat) : LogTree :=
  { t with levels := Entries.put t.levels (key name) level }

/-- Whether a logger is the one of the library or below it. -/
def isSdk (name : String) : Bool := (path name).contains sdk

end LogTree

/-! ## Lines -/

namespace LogFormat

def timeMark : String := "<ts>"

/-- Fills up with spaces to a width. -/
def pad (width : Nat) (s : String) : String :=
  s ++ String.ofList (List.replicate (width - s.length) ' ')

/-- Whether a text must be quoted on the console. -/
def needsQuotes (s : String) : Bool := s.toList.any fun c => " \t=\r\n\"'".toList.contains c

def consoleValue : Value → String
  | .text s => if needsQuotes s then Text.quotedString s else s
  | v => v.literal

/-- All fields of an event, in the order in which they are written. -/
def entries (logger level : String) (event : Option Value) (fields : Bundle) : Bundle :=
  let es := event.elim fields fun v => Entries.put fields "event" v
  let es := Entries.put es "logger" (.text logger)
  let es := Entries.put es "level" (.text level)
  let es := if Entries.has es "sdk" then es else Entries.put es "sdk" (.text LogTree.sdk)
  Entries.put es "timestamp" (.text timeMark)

/-- The fields that have places of their own on the console. -/
def placed : List String :=
  ["timestamp", "level", "event", "logger", "logger_name", "stack", "exception"]

/-- The text behind a line on the console for the fields with traces, if they are texts. -/
def traces? (es : Bundle) (raises : Bool) : Option String :=
  let trace (name : String) : Option (Option String) :=
    match Entries.get? es name with
    | none => some none
    | some .null => some none
    | some (.text t) => some (some t)
    | some _ => none
  match trace "stack", trace "exception" with
  | some stack, some exception =>
      let ruled := stack.isSome && (raises || exception.isSome)
      some ((stack.elim "" ("\n" ++ ·)) ++
        (if ruled then "\n\n" ++ String.ofList (List.replicate 79 '=') ++ "\n" else "") ++
        exception.elim "" ("\n" ++ ·))
  | _, _ => none

def consoleLine? (level : String) (es : Bundle) (raises : Bool) : Option String :=
  let column (name : String) (form : String → String) : List String :=
    ((Entries.get? es name).map fun v => form v.display).toList
  let rest := (es.map fun e => (e.1.display, e.2)).filter fun e => !placed.contains e.1
  let sorted := rest.mergeSort fun a b => decide (a.1 ≤ b.1)
  let columns :=
    [timeMark, "[" ++ pad 9 level ++ "]"] ++ column "event" (pad 30) ++
      column "logger" (fun t => "[" ++ t ++ "]") ++
      column "logger_name" (fun t => "[" ++ t ++ "]") ++
      sorted.map fun e => e.1 ++ "=" ++ consoleValue e.2
  (traces? es raises).map fun t => String.intercalate " " columns ++ t

/-- The line of an event with all its fields; `raises` tells whether an exception is asked for.
There is none where a trace is no text. -/
def line? (f : LogFormat) (level : String) (es : Bundle) (raises : Bool) : Option String :=
  match f with
  | json => some (Json.write (.dict es))
  | console => consoleLine? level es raises

end LogFormat

/-! ## Adapter -/

/-- Why a configuration is refused. -/
inductive LogFault
  | bind (fault : Config.BindFault)
  /-- the levels are no mapping -/
  | levels
  /-- a level cannot be set: what its name stands for is a text, or that or the name of the logger
  is no text -/
  | noLevel (isText : Bool)
  deriving DecidableEq, Repr

/-- What a configuration asks for: the level of the logger of the library, those of other loggers,
and how lines look. -/
structure LogPlan where
  root : String
  modules : List (Key × String)
  format : String
  deriving DecidableEq, Repr

namespace LogPlan

/-- The levels of a record, their names in upper case. -/
def levelsOf? (v : Value) : Option (List (Key × String)) :=
  v.entries?.map fun es => es.map fun e => (e.1, Text.upper e.2.display)

def read (c : Config) (env : Config.Environment) : Except LogFault LogPlan :=
  match c.bind env loggingSchema with
  | .error f => .error (.bind f)
  | .ok es =>
      match levelsOf? ((Entries.get? es "level").getD .null) with
      | none => .error .levels
      | some levels =>
          .ok ⟨(Entries.get? levels "root").getD "INFO", Entries.erase levels "root",
            Text.lower ((Entries.get? es "format").getD .null).display⟩

/-- The levels of other loggers as they are shown. -/
def shown (p : LogPlan) : List (String × String) := p.modules.map fun e => (e.1.display, e.2)

end LogPlan

/-- Why an event cannot be logged. -/
inductive LogCallFault
  /-- loggers have no such method -/
  | noMethod
  /-- a field has the name of a parameter -/
  | parameterName
  /-- the field for the record of the event is taken -/
  | recordTaken
  deriving DecidableEq, Repr

namespace LogAdapter

/-- An adapter that is not configured, over loggers of which only the topmost has a level. -/
def create : LogAdapter where
  tree := ⟨[("", 30)], [], true⟩
  own := none
  nextId := 0
  rootLevel := "INFO"
  moduleLevels := []
  format := "console"

def setLevel (a : LogAdapter) (name level : String) : Except LogFault LogAdapter :=
  match LogTree.levelName (Text.upper level) with
  | .level n => .ok { a with tree := a.tree.setLevel name n }
  | .other isText => .error (.noLevel isText)

def setLevelUnder (a : LogAdapter) (k : Key) (level : String) : Except LogFault LogAdapter :=
  match LogTree.loggerName? k with
  | some name => a.setLevel name level
  | none => .error (.noLevel false)

/-- Sets levels one after the other, up to the first that is refused. -/
def setLevels (a : LogAdapter) : List (Key × String) → LogAdapter × Except LogFault Unit
  | [] => (a, .ok ())
  | (k, level) :: rest =>
      match a.setLevelUnder k level with
      | .ok b => b.setLevels rest
      | .error f => (a, .error f)

def others (a : LogAdapter) : List LogHandler :=
  match a.own with
  | some h => a.tree.handlers.filter (· ≠ h)
  | none => a.tree.handlers

/-- Attaches a handler in place of the former one. -/
def install (a : LogAdapter) : LogAdapter :=
  let h : LogHandler := ⟨a.nextId, if a.format = "json" then .json else .console⟩
  { a with
    tree := { a.tree with handlers := a.others ++ [h], propagates := false }
    own := some h
    nextId := a.nextId + 1 }

/-- Applies the settings of a configuration. The level under `root` is that of the logger of
the library; loggers without a level in the configuration keep the one they have. -/
def configure (a : LogAdapter) (c : Config) (env : Config.Environment) :
    LogAdapter × Except LogFault Unit :=
  match LogPlan.read c env with
  | .error f => (a, .error f)
  | .ok p =>
      let a := { a with rootLevel := p.root, moduleLevels := p.shown, format := p.format }
      a.install.setLevels ((.text LogTree.sdk, p.root) :: p.modules)

def reset (a : LogAdapter) : LogAdapter :=
  match a.own with
  | none => a
  | some _ =>
      { a with tree := { a.tree with handlers := a.others, propagates := true }, own := none }

/-- A call that sets an adapter up or takes it down. -/
inductive Call
  | configure (c : Config) (env : Config.Environment)
  | reset

/-- The adapter after a call, be it refused or not. -/
def act (a : LogAdapter) : Call → LogAdapter
  | .configure c env => (a.configure c env).1
  | .reset => a.reset

def run (a : LogAdapter) (calls : List Call) : LogAdapter := calls.foldl act a

/-- The level that a method of loggers logs at, by its name, and its number. -/
def methodLevel? : String → Option (String × Nat)
  | "debug" => some ("debug", 10)
  | "info" => some ("info", 20)
  | "warning" => some ("warning", 30)
  | "warn" => some ("warning", 30)
  | "error" => some ("error", 40)
  | "exception" => some ("error", 40)
  | "critical" => some ("critical", 50)
  | "fatal" => some ("critical", 50)
  | _ => none

/-- The fields that are not written. -/
def hidden : List String := ["_record", "_from_structlog", "stack_info", "exc_info"]

/-- The names of the parameters of a logger's methods. -/
def parameters : List String := ["self", "event", "method_name"]

/-- What the handlers write for an event: a line for each one, if the level of the logger lets it
pass. -/
def write (a : LogAdapter) (logger method : String) (event : Option Value) (fields : Bundle) :
    Except LogCallFault (List String) :=
  match methodLevel? method with
  | none => .error .noMethod
  | some (level, number) =>
      if parameters.any fun n => Entries.has fields n then .error .parameterName
      else if a.own.isNone || number < a.tree.effective logger then .ok []
      else if ((Entries.get? fields "_record").getD .null) matches .null then
        let raises :=
          method == "exception" || ((Entries.get? fields "exc_info").any Value.truthy)
        let es := LogFormat.entries logger level event
          (fields.filter fun e => !hidden.contains e.1.display)
        .ok (if LogTree.isSdk logger then
          a.tree.handlers.filterMap fun h => h.format.line? level es raises else [])
      else .error .recordTaken

end LogAdapter
end Polyglot

import Polyglot.Failure.Settings
import Polyglot.Log.Event
import Polyglot.Message.Parser
import Polyglot.Message.Template

/-!
# Formatter

A formatter fills in messages for one active language. Templates are kept by message text;
when the cache is full the oldest one is dropped, and a change of language drops them all.
A message that holds nothing but simple arguments is filled in without being parsed. A
message that cannot be parsed or rendered comes back unchanged, with few exceptions.
-/
namespace Polyglot.Message

/-! ## Simple messages -/

/-- A part of a message that is not parsed: a character or a simple argument. -/
inductive Segment
  | char (c : Char)
  | placeholder (name raw : List Char)
  deriving DecidableEq, Repr

/-- A simple argument at the front; the input is what follows its opening brace. Returns
the name, the source of the argument and the rest. -/
def placeholder? (cs : List Char) : Option (List Char × List Char × List Char) :=
  let start := Text.skipBlanks cs
  let name := start.takeWhile isNameChar
  if name.isEmpty then none
  else
    match Text.skipBlanks (start.dropWhile isNameChar) with
    | '\x7d' :: r => some (name, '\x7b' :: cs.take (cs.length - r.length), r)
    | _ => none

theorem length_placeholder?_lt {cs : List Char} {p : List Char × List Char × List Char}
    (h : placeholder? cs = some p) : p.2.2.length < cs.length := by
  simp only [placeholder?] at h
  split at h
  · simp at h
  · split at h
    · rename_i r hr
      simp only [Option.some.injEq] at h
      subst h
      have h1 := Text.length_skipBlanks_le ((Text.skipBlanks cs).dropWhile isNameChar)
      have h2 := (List.dropWhile_suffix (l := Text.skipBlanks cs) isNameChar).length_le
      have h3 := Text.length_skipBlanks_le cs
      rw [hr] at h1
      simp only [List.length_cons] at *
      omega
    · simp at h

/-- The parts of a message, simple arguments being found from the left. -/
def segments (cs : List Char) : List Segment :=
  match cs with
  | [] => []
  | c :: r =>
      if c = '\x7b' then
        match h : placeholder? r with
        | some (name, raw, rest) =>
            have : rest.length < r.length := length_placeholder?_lt h
            .placeholder name raw :: segments rest
        | none => .char c :: segments r
      else .char c :: segments r
termination_by cs.length

/-- Whether an apostrophe stands in front of another one or of a brace. -/
def hasQuote : List Char → Bool
  | a :: b :: r =>
      (a == '\'' && (b == '\'' || b == '\x7b' || b == '\x7d')) || hasQuote (b :: r)
  | _ => false

/-- Whether a part is a brace that belongs to no simple argument. -/
def Segment.isBrace : Segment → Bool
  | char c => c == '\x7b' || c == '\x7d'
  | placeholder .. => false

/-- Whether a message holds nothing but text and simple arguments. -/
def isInterpolation (message : String) : Bool :=
  !hasQuote message.toList && !(segments message.toList).any Segment.isBrace

def Segment.fill (l : Locale) (values : Bundle) : Segment → Except RenderFault String
  | char c => .ok (String.singleton c)
  | placeholder name raw => argumentText l values (String.ofList name) (String.ofList raw)

/-- Fills in the simple arguments of a message. -/
def interpolate (l : Locale) (values : Bundle) (message : String) : Except RenderFault String :=
  ((segments message.toList).mapM (Segment.fill l values)).map String.join

/-! ## Messages with types -/

def keywords : List String := ["plural", "select", "selectordinal", "number", "date", "time"]

/-- The characters that may precede the comma of an argument with a type. -/
def isTokenChar (c : Char) : Bool :=
  !(c == '\x7b' || c == '\x7d' || Text.isBlank c || c == ',')

/-- Whether a keyword stands at the front, followed by a comma or a closing brace. -/
def startsWithKeyword (cs : List Char) : Bool :=
  keywords.any fun k =>
    match dropWord? k.toList cs with
    | none => false
    | some r =>
        match Text.skipBlanks r with
        | c :: _ => c == ',' || c == '\x7d'
        | [] => false

/-- Whether an argument with a type stands at the front; the input is what follows its
opening brace. -/
def startsTyped (cs : List Char) : Bool :=
  let start := Text.skipBlanks cs
  !(start.takeWhile isTokenChar).isEmpty &&
    match Text.skipBlanks (start.dropWhile isTokenChar) with
    | ',' :: r => startsWithKeyword (Text.skipBlanks r)
    | _ => false

/-- Whether an argument with a type stands somewhere in a text. -/
def hasTyped : List Char → Bool
  | [] => false
  | c :: r => (c == '\x7b' && startsTyped r) || hasTyped r

def hasArgumentType (message : String) : Bool := hasTyped message.toList

/-! ## Formatters -/

/-- A formatter. `cache` lists the templates by message, the oldest first. -/
structure Formatter where
  /-- where locales come from -/
  library : LocaleLibrary
  /-- the active language; the locale is that of the last language that is a text -/
  language : Key
  locale : Locale
  /-- how many templates are kept, if there is a limit -/
  capacity : Option Nat
  /-- the currency of amounts, if they can be written in one -/
  currency : Option String
  cache : List (String × Template)

/-- Why a message cannot be formatted: the failures that are not recovered. -/
inductive FormatFault
  | syntaxError (error : SyntaxError)
  | render (fault : RenderFault)
  deriving DecidableEq, Repr

/-- Whether the message is returned unchanged when its rendering fails this way. -/
def RenderFault.isRecovered : RenderFault → Bool
  | date (.missingPart _) => false
  | epoch .calendar => false
  | _ => true

/-- Whether a failed parse is a fault of the message's syntax. -/
def SyntaxFault.isRecovered : SyntaxFault → Bool
  | offsetTooLong _ => false
  | _ => true

namespace Formatter

/-- How many templates a formatter keeps unless it is told otherwise. -/
def defaultCapacity : Nat := 500

def localeEvents (language : String) (library : LocaleLibrary := .known) : List Event :=
  if (Locale.resolve? language library).isSome then [] else [.unknownLocale language]

def create (language : String) (capacity : Option Nat) (currency : Option String)
    (library : LocaleLibrary := .known) : Formatter :=
  ⟨library, language, Locale.resolve language library, capacity, currency, []⟩

/-- The currency of amounts unless a formatter is told otherwise. -/
def defaultCurrency : String := "USD"

/-- The formatter of a language unless another one is given. -/
def usual (language : String) (library : LocaleLibrary := .known) : Formatter :=
  create language (some defaultCapacity) (some defaultCurrency) library

/-- What a change of language yields. -/
structure Change where
  formatter : Formatter
  events : List Event
  result : Except SettingsFault Unit

/-- Changes the language and drops the templates, unless it is the active language. What is no
text has no locale. -/
def setLanguage (f : Formatter) (language : Key) : Change :=
  if language = f.language then ⟨f, [], .ok ()⟩
  else
    match SettingsFault.letters language.toValue with
    | .error e => ⟨{ f with language := language }, [], .error e⟩
    | .ok tag =>
        ⟨{ f with language := language, locale := Locale.resolve tag f.library, cache := [] },
          localeEvents tag f.library ++ [.formatterLanguageChanged tag], .ok ()⟩

def clearCache (f : Formatter) : Formatter := { f with cache := [] }

/-- Whether there is no room for another template. -/
def isFull (f : Formatter) : Bool := f.capacity.any fun n => n ≤ f.cache.length

/-- Keeps a template, dropping the oldest one when the cache is full. -/
def keep (f : Formatter) (message : String) (t : Template) : Formatter :=
  let kept := if f.isFull then f.cache.drop 1 else f.cache
  { f with cache := Entries.put kept message t }

/-- The template of a message: a kept one, or a new one that is then kept. -/
def compile (f : Formatter) (message : String) : Formatter × Except SyntaxError Template :=
  match Entries.get? f.cache message with
  | some t => (f, .ok t)
  | none =>
      match parse message with
      | .error e => (f, .error e)
      | .ok nodes =>
          let t : Template := ⟨nodes, f.locale, f.currency⟩
          (f.keep message t, .ok t)

/-- What formatting a message yields: the formatter after it, reports and the text. -/
structure Outcome where
  formatter : Formatter
  events : List Event
  result : Except FormatFault String

def format (f : Formatter) (message : String) (values : Bundle) : Outcome :=
  if message = "" then ⟨f, [], .ok message⟩
  else if isInterpolation message then
    ⟨f, [], (interpolate f.locale values message).mapError .render⟩
  else
    let (g, compiled) := f.compile message
    match compiled with
    | .error e =>
        if e.fault.isRecovered then
          ⟨g, [.messageParseFailed message f.language e.text], .ok message⟩
        else ⟨g, [], .error (.syntaxError e)⟩
    | .ok t =>
        match t.render values with
        | .ok s => ⟨g, [], .ok s⟩
        | .error e =>
            if e.isRecovered then
              ⟨g, [.messageFormatFailed message f.language e.text?], .ok message⟩
            else ⟨g, [], .error (.render e)⟩

end Formatter
end Polyglot.Message

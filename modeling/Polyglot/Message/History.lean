import Polyglot.Message.Formatter

/-!
# Runs of a formatter

The calls of a formatter one after the other, and which templates they should leave behind. That
is told by the calls alone: a template is made for a message that needs one and has none, and
when there are too many the one that was made first goes.
-/
namespace Polyglot.Message

inductive FormatterCall
  | format (message : String) (values : Bundle)
  | setLanguage (language : String)
  | clearCache

namespace Formatter

def act (f : Formatter) : FormatterCall → Formatter
  | .format message values => (f.format message values).formatter
  | .setLanguage language => (f.setLanguage language).formatter
  | .clearCache => f.clearCache

def run (f : Formatter) (calls : List FormatterCall) : Formatter := calls.foldl act f

end Formatter

/-- Whether a message is formatted with a template: it can be parsed, and there is more in it than
text and simple arguments. -/
def needsTemplate (message : String) : Bool :=
  message ≠ "" && !isInterpolation message && (parse message).toBool

/-- What matters of the calls of a formatter: its language, and the messages for which it has made
templates since these were dropped, the first one first. -/
structure FormatterPast where
  language : String
  made : List String

namespace FormatterPast

/-- The messages whose templates are kept: the last ones, as many as there is room for. -/
def kept (capacity : Option Nat) (p : FormatterPast) : List String :=
  match capacity with
  | none => p.made
  | some n => p.made.drop (p.made.length - n)

def after (capacity : Option Nat) (p : FormatterPast) : FormatterCall → FormatterPast
  | .format message _ =>
      if needsTemplate message = true ∧ message ∉ p.kept capacity then
        { p with made := p.made ++ [message] }
      else p
  | .setLanguage language => if language = p.language then p else ⟨language, []⟩
  | .clearCache => { p with made := [] }

/-- The past of a formatter that was new for a language before some calls. -/
def ofCalls (capacity : Option Nat) (language : String) (calls : List FormatterCall) :
    FormatterPast :=
  calls.foldl (after capacity) ⟨language, []⟩

end FormatterPast
end Polyglot.Message

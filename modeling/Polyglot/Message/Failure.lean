import Polyglot.Failure.Basic
import Polyglot.Message.Formatter

/-!
# Failures of messages

Every fault of parsing and formatting a message as a failure, with its kind, its text and what
it is about.
-/
namespace Polyglot

/-! ## Kinds -/

def DecimalFault.kind : DecimalFault → FailureKind
  | invalid => .invalidDecimal
  | divisionByZero => .decimalDivision
  | overflow => .decimalOverflow

/-- The kind of a number that has no plural category. -/
def PluralFault.kind : PluralFault → FailureKind
  | decimal f => f.kind
  | notANumber => .badValue
  | infinite => .overflow

def NumberFault.kind : NumberFault → FailureKind
  | decimal f => f.kind
  | pattern _ => .badValue
  | plural f => f.kind
  | noCompact _ => .missingKey

def DateFault.kind : DateFault → FailureKind
  | badLength .. => .badValue
  | missingPart _ => .missingMember
  | wrongKind _ => .wrongType
  | noNames _ => .missingKey
  | tooManyPlaces => .overflow
  | yearOutOfRange => .badValue
  | noSkeleton _ => .missingKey

/-- The kind of a count of seconds that is no moment. -/
def EpochFault.kind : EpochFault → FailureKind
  | year _ => .badValue
  | notANumber => .badValue
  | calendar => .system
  | range => .overflow

namespace Message

def RenderFault.kind : RenderFault → FailureKind
  | missing _ => .missingArgument
  | notNumber .. => .messageFormat
  | notIso .. => .messageFormat
  | notMoment _ => .messageFormat
  | unsupportedToken _ => .messageFormat
  | noOther => .missingKey
  | decimal f => f.kind
  | plural f => f.kind
  | number f => f.kind
  | date f => f.kind
  | epoch f => f.kind
  | noCurrency => .wrongType
  | numberTooLong => .badValue

/-! ## Failures -/

def RenderFault.argument? : RenderFault → Option String
  | missing a => some a
  | notNumber a _ => some a
  | notIso a _ => some a
  | notMoment a => some a
  | _ => none

def RenderFault.failureText (f : RenderFault) : String :=
  match f with
  | epoch e => e.text?.getD ""
  | numberTooLong => Literal.tooWideText
  | f => f.text?.getD ""

def RenderFault.failure (f : RenderFault) : Failure :=
  let context : Bundle := f.argument?.elim [] fun a => [("argument", .text a)]
  ⟨f.kind, f.failureText, none, context, none⟩

/-- The failure of parsing a source. An offset that is too long is no fault of the grammar. -/
def SyntaxError.failure (e : SyntaxError) (source : String) : Failure :=
  match e.fault with
  | .offsetTooLong _ => .plain .badValue e.fault.text
  | f => .messageSyntax f.text (Int.ofNat e.position) source

def FormatFault.failure (f : FormatFault) (message : String) : Failure :=
  match f with
  | syntaxError e => e.failure message
  | render f => f.failure

end Message
end Polyglot

import Polyglot.Text.Digit
import Polyglot.Value.Basic

/-!
# Failures

What can go wrong while messages are loaded and used. A failure has a kind, a text, an
optional code and a context. The kinds form a tree: a connection failure is a failure of
the system, an exhausted retry is a failure of the infrastructure, and every failure is one
of the kind `any`.
-/
namespace Polyglot

inductive FailureKind
  | any
  /-- a failure of this library -/
  | library
  | messageFormat
  | messageSyntax
  | missingArgument
  | configuration
  | noTranslations
  | infrastructure
  | retryExhausted
  | loadFailed
  /-- a failure of the operating system -/
  | system
  | connection
  | timedOut
  | denied
  /-- a failure of the transport under a request -/
  | transport
  /-- a URL is no address -/
  | badAddress
  | badValue
  | badJson
  | missingKey
  | unexpected
  | overflow
  /-- a decimal operation without a meaningful result -/
  | invalidDecimal
  | decimalDivision
  | decimalOverflow
  /-- a value lacks a part that is asked of it -/
  | missingMember
  /-- there is nothing at a place of a text or a list -/
  | missingItem
  | wrongType
  deriving DecidableEq, Repr

namespace FailureKind

def all : List FailureKind :=
  [any, library, messageFormat, messageSyntax, missingArgument, configuration, noTranslations,
    infrastructure, retryExhausted, loadFailed, system, connection, timedOut, denied, transport,
    badAddress, badValue, badJson, missingKey, unexpected, overflow, invalidDecimal,
    decimalDivision, decimalOverflow, missingMember, missingItem, wrongType]

theorem mem_all (k : FailureKind) : k ∈ all := by cases k <;> decide

def parent? : FailureKind → Option FailureKind
  | any => none
  | library => some any
  | messageFormat => some library
  | messageSyntax => some messageFormat
  | missingArgument => some messageFormat
  | configuration => some library
  | noTranslations => some configuration
  | infrastructure => some library
  | retryExhausted => some infrastructure
  | loadFailed => some infrastructure
  | system => some any
  | connection => some system
  | timedOut => some system
  | denied => some system
  | transport => some any
  | badAddress => some any
  | badValue => some any
  | badJson => some badValue
  | missingKey => some any
  | unexpected => some any
  | overflow => some any
  | invalidDecimal => some any
  | decimalDivision => some any
  | decimalOverflow => some any
  | missingMember => some any
  | missingItem => some any
  | wrongType => some any

/-- How many steps lead from a kind to `any`. -/
def depth : FailureKind → Nat
  | any => 0
  | messageSyntax => 3
  | missingArgument => 3
  | noTranslations => 3
  | retryExhausted => 3
  | loadFailed => 3
  | messageFormat => 2
  | configuration => 2
  | infrastructure => 2
  | connection => 2
  | timedOut => 2
  | denied => 2
  | badJson => 2
  | _ => 1

theorem depth_parent? {k p : FailureKind} (h : k.parent? = some p) : p.depth < k.depth := by
  cases k <;> cases h <;> decide

/-- The kind itself, the kind it is a special case of, and so on up to `any`. -/
def lineage (k : FailureKind) : List FailureKind :=
  match h : k.parent? with
  | none => [k]
  | some p =>
      have : p.depth < k.depth := depth_parent? h
      k :: lineage p
termination_by k.depth

/-- Whether a kind is another one or a special case of it. -/
def isA (k other : FailureKind) : Bool := (lineage k).contains other

end FailureKind

structure Failure where
  kind : FailureKind
  text : String
  code : Option String
  context : Bundle
  /-- the text of the failure behind it, if there is one -/
  cause : Option String
  deriving Repr

namespace Failure

def plain (kind : FailureKind) (text : String) : Failure := ⟨kind, text, none, [], none⟩

def messageSyntax (text : String) (position : Int) (source : String) : Failure :=
  ⟨.messageSyntax, text ++ " at position " ++ String.ofList (Text.intText position),
    some "FORMAT_SYNTAX", [("position", .int position), ("source", .text source)],
    none⟩

def isA (f : Failure) (kind : FailureKind) : Bool := f.kind.isA kind

def isOneOf (f : Failure) (kinds : List FailureKind) : Bool := kinds.any f.isA

/-- What went wrong in the end: an exhausted retry tells the failure behind it. -/
def reason (f : Failure) : String :=
  if f.kind = .retryExhausted then f.cause.getD f.text else f.text

end Failure
end Polyglot

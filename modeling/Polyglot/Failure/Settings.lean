import Polyglot.Failure.Basic
import Polyglot.Number.Duration
import Polyglot.Value.Basic

/-!
# Faults of settings

Why settings cannot be used: a number that must be positive is not, a number of seconds is no
duration, or a value is of another kind than the one that is asked for.
-/
namespace Polyglot

/-- Why settings cannot be used. -/
inductive SettingsFault
  | noAttempts
  | noEntries
  | noTemplates
  | duration (fault : DurationFault)
  /-- a value is of a kind that cannot be used -/
  | wrongType
  /-- a value that is no text stands where one is needed -/
  | missingMember
  /-- a number that is none cannot be compared -/
  | uncomparable
  deriving DecidableEq, Repr

namespace SettingsFault

/-- The text of a fault; some have none of their own. -/
def text? : SettingsFault → Option String
  | noAttempts => some "max_attempts must be at least 1"
  | noEntries => some "max_entries must be at least 1"
  | noTemplates => some "cache_size must be at least 1"
  | duration .notANumber => some "cannot convert float NaN to integer"
  | _ => none

def kind : SettingsFault → FailureKind
  | duration .infinite => .overflow
  | duration .tooLong => .overflow
  | wrongType => .wrongType
  | missingMember => .missingMember
  | uncomparable => .invalidDecimal
  | _ => .badValue

def failure (f : SettingsFault) : Failure := .plain f.kind (f.text?.getD "")

/-! ## Numbers -/

/-- Whether a number is less than one. -/
def isBelowOne (v : Value) : Except SettingsFault Bool :=
  match v, v.number? with
  | .decimal d, _ =>
      match Decimal.compare? d (.ofInt 1) with
      | some o => .ok (o == .lt)
      | none => .error uncomparable
  | _, some n => .ok (Number.lt n (.int 1))
  | _, none => .error wrongType

/-- A number that must be at least one. -/
def positive (v : Value) (fault : SettingsFault) : Except SettingsFault Unit :=
  (isBelowOne v).bind fun isBelow => if isBelow then .error fault else .ok ()

/-- Whether a number is not above zero. -/
def isAtMostZero (v : Value) : Except SettingsFault Bool :=
  match v, v.number? with
  | .decimal d, _ =>
      match Decimal.compare? d (.ofInt 0) with
      | some o => .ok (o != .gt)
      | none => .error uncomparable
  | _, some n => .ok (Number.le n (.int 0))
  | _, none => .error wrongType

/-- The least whole number that is not below a number, if there is one. -/
def ceiling? : Value → Option Nat
  | .decimal (.finite false c e) =>
      some (Decimal.wholeAbs c e + if Decimal.isWhole c e then 0 else 1)
  | .float (.finite false m e) =>
      let (num, den) := Binary64.toRatio m e
      some ((num + den - 1) / den)
  | .int n => some n.toNat
  | .bool b => some (if b then 1 else 0)
  | _ => none

/-- How much may be kept; there is no limit where there is no number to reach. -/
def capacity (v : Value) (fault : SettingsFault) : Except SettingsFault (Option Nat) :=
  (positive v fault).map fun _ => ceiling? v

def seconds (v : Value) : Except SettingsFault Duration :=
  match v.number? with
  | some n => (Duration.ofSeconds n).mapError duration
  | none => .error wrongType

/-! ## Texts, keys and lists -/

/-- A text; a value of another kind has no letters. A day has a part of the same name as a text,
which is used in another way. -/
def letters : Value → Except SettingsFault String
  | .text s => .ok s
  | .date _ => .error wrongType
  | .moment _ => .error wrongType
  | _ => .error missingMember

/-- The key that a value is; a collection is none. -/
def key (v : Value) : Except SettingsFault Key :=
  match v.key? with
  | some k => .ok k
  | none => .error wrongType

def items (v : Value) : Except SettingsFault (List Value) :=
  match v.items? with
  | some vs => .ok vs
  | none => .error wrongType

end SettingsFault
end Polyglot
